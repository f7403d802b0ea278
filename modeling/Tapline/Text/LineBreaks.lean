/-!
# Keeping a text on one line

A record is one line, so a text placed into it gives up its own line breaks: a line feed becomes
the two characters `\n` and a carriage return the two characters `\r`. Nothing else changes.
-/

namespace Tapline.Text

/-- Cuts characters at line feeds. A carriage return in front of one goes with it, and nothing
after the last one is no line. -/
def cutLines (line : List Char) : List Char → List (List Char)
  | [] => if line.isEmpty then [] else [line.reverse]
  | c :: rest =>
    if c = '\n' then (match line with
      | '\r' :: line => line.reverse
      | line => line.reverse) :: cutLines [] rest
    else cutLines (c :: line) rest

/-- The lines of a text, without what ends them. -/
def lines (s : String) : List String := (cutLines [] s.toList).map String.ofList

/-- A character as it stands inside a line. -/
def inlineChar (c : Char) : List Char :=
  if c = '\n' then ['\\', 'n'] else if c = '\r' then ['\\', 'r'] else [c]

/-- A text as it stands inside a line. -/
def inline (s : String) : String :=
  if s.toList.any (fun c => c == '\n' || c == '\r') then
    String.ofList (s.toList.flatMap inlineChar)
  else s

theorem flatMap_inlineChar_of_clean {cs : List Char}
    (clean : cs.any (fun c => c == '\n' || c == '\r') = false) : cs.flatMap inlineChar = cs := by
  induction cs with
  | nil => rfl
  | cons c rest ih =>
    simp only [List.any_cons, Bool.or_eq_false_iff] at clean
    simp_all [inlineChar]

/-- The short way out for a text without breaks changes nothing. -/
theorem toList_inline (s : String) : (inline s).toList = s.toList.flatMap inlineChar := by
  unfold inline
  split
  · simp
  next clean => exact (flatMap_inlineChar_of_clean (by simpa using clean)).symm

theorem inlineChar_ne_break {c d : Char} (member : d ∈ inlineChar c) : d ≠ '\n' ∧ d ≠ '\r' := by
  unfold inlineChar at member
  split at member
  · simp only [List.mem_cons, List.not_mem_nil, or_false] at member
    rcases member with rfl | rfl <;> decide
  · split at member
    · simp only [List.mem_cons, List.not_mem_nil, or_false] at member
      rcases member with rfl | rfl <;> decide
    · simp_all

end Tapline.Text
