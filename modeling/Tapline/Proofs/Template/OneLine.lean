import Tapline.Field.Shapes
import Tapline.Proofs.Template.Cut
import Tapline.Proofs.Template.Pool
import Tapline.Proofs.Value.Encode
/-!
# A record is one line

Whatever the field functions of a template give, its line holds the line breaks of its literals
and one line feed at its end, and no other. Values reach a line on three ways, and each of them
gives up the breaks: text in a call is escaped (`Field.unbroken_text`), and a group is JSON, whose
strings and keys hold none, or else is in the loose form and escaped as a whole
(`Field.unbroken_groupText`).

## Main result

`line_breaks_of_literals`, for every compiled template, every bag and each way to ask for a line.
-/

namespace Tapline

namespace Field

theorem unbroken_text (field : Field) : Unbroken field.text.toList := by
  unfold text
  split
  · simp
  · exact unbroken_inline _

theorem unbroken_groupText (fields : List Field) : Unbroken (groupText fields).value.toList := by
  simp only [groupText]
  cases encoded : (Value.map (members fields).entries).jsonText with
  | ok text =>
    rw [Value.jsonText_eq_map_write] at encoded
    cases made : (Value.map (members fields).entries).toJson with
    | error cause => simp [made, Except.map] at encoded
    | ok document =>
      -- A group that has a document is the text of it.
      obtain rfl : document.write = text := by simpa [made, Except.map] using encoded
      exact Json.unbroken_write document
  | error cause => exact unbroken_inline _

end Field

/-- The text of a segment that is literal, and nothing for another one. -/
def Segment.literalText : Segment → List Char
  | .literal text => text.toList
  | _ => []

/-- The literals of a template in a row. -/
def Template.literalText (t : Template) : List Char := t.segments.flatMap Segment.literalText

variable {c : Char}

theorem Segment.count_text (isBreak : c = '\n' ∨ c = '\r') (segment : Segment) (bag : Bag) :
    (segment.text bag).value.toList.count c = segment.literalText.count c := by
  cases segment with
  | literal text => rfl
  | call f => exact (Field.unbroken_text _).count_eq_zero isBreak
  | group fs => exact (Field.unbroken_groupText _).count_eq_zero isBreak

theorem count_bodyText (isBreak : c = '\n' ∨ c = '\r') (segments : List Segment) (bag : Bag) :
    (bodyText segments bag).value.toList.count c =
      (segments.flatMap Segment.literalText).count c := by
  induction segments with
  | nil => simp [bodyText, Noted.pure]
  | cons segment rest ih =>
    simp only [bodyText, String.toList_append, List.count_append, List.flatMap_cons]
    rw [Segment.count_text isBreak, ih]

namespace Template

theorem count_line (isBreak : c = '\n' ∨ c = '\r') (t : Template) (bag : Bag) :
    (t.line bag).value.toList.count c = t.literalText.count c + if c = '\n' then 1 else 0 := by
  simp only [line, String.toList_append, List.count_append, count_bodyText isBreak, literalText]
  rcases isBreak with rfl | rfl <;> rfl

/-! ### Literals of a compiled template -/

theorem compile_eq_ok_iff {source : String} {registry : Registry} {t : Template} :
    compile source registry = .ok t ↔ registry.contains reservedKey = false ∧
      t = ⟨source, (pieces registry source).map (Piece.bind registry)⟩ := by
  unfold compile
  split
  next claimed => simp [claimed]
  next unclaimed =>
    have free : registry.contains reservedKey = false := by simpa using unclaimed
    simp [free, eq_comm]

theorem mem_source_of_mem_literalText {registry : Registry} {piece : Piece}
    (member : c ∈ (Piece.bind registry piece).literalText) : c ∈ piece.source := by
  cases piece with
  | literal text => simpa [Piece.bind, Segment.literalText, Piece.source] using member
  | call key =>
    rw [Piece.bind] at member
    cases found : registry.get? key with
    | some f => simp [found, Segment.literalText] at member
    | none => simpa [found, Segment.literalText] using member
  | group body => cases member

/-- Literals are part of the text that a template was compiled from. -/
theorem mem_toList_of_mem_literalText {source : String} {registry : Registry} {t : Template}
    (compiled : compile source registry = .ok t) (member : c ∈ t.literalText) :
    c ∈ source.toList := by
  obtain ⟨free, rfl⟩ := compile_eq_ok_iff.mp compiled
  simp only [literalText, List.mem_flatMap, List.mem_map] at member
  obtain ⟨_, ⟨piece, inside, rfl⟩, member⟩ := member
  rw [← (Piece.scan_isCut free source.toList).joined]
  exact List.mem_flatMap.mpr ⟨piece, inside, mem_source_of_mem_literalText member⟩

/-- **Values never break a line.** The line of a compiled template ends in a line feed, holds one
more of them than its literals and as many carriage returns as they do; if the template text has no
break, the line has the one at its end only. Asking for the line in the pooled buffer, whatever
state that is in, or in a fresh text makes no difference. -/
theorem line_breaks_of_literals {source : String} {registry : Registry} {t : Template}
    (compiled : compile source registry = .ok t) (bag : Bag) (pool : LinePool) :
    let line := (t.line bag).value
    ((t.buildText bag pool).value = line ∧ (t.withLine bag pool id).value = line) ∧
    line.toList.getLast? = some '\n' ∧
    line.toList.count '\n' = t.literalText.count '\n' + 1 ∧
    line.toList.count '\r' = t.literalText.count '\r' ∧
    (Unbroken source.toList → line.toList.count '\n' = 1 ∧ line.toList.count '\r' = 0) := by
  intro line
  have feeds : line.toList.count '\n' = t.literalText.count '\n' + 1 := by
    rw [count_line (Or.inl rfl), if_pos rfl]
  have returns : line.toList.count '\r' = t.literalText.count '\r' := by
    rw [count_line (Or.inr rfl), if_neg (by decide), Nat.add_zero]
  refine ⟨⟨buildText_value t bag pool, withLine_value t bag pool id⟩,
    by simp [line, Template.line], feeds, returns, ?_⟩
  intro clear
  -- Literals come from the template text, so they have no break if it has none.
  have plain : Unbroken t.literalText := fun c member =>
    clear c (mem_toList_of_mem_literalText compiled member)
  exact ⟨by rw [feeds, plain.count_eq_zero (Or.inl rfl)],
    by rw [returns, plain.count_eq_zero (Or.inr rfl)]⟩

/-- A text with both breaks, in a call and in a group of one template. -/
theorem line_of_broken_text :
    let registry := Registry.empty.insert 'v' (.constant "v" (.text "a\r\nb"))
    let t : Template := ⟨"%v|%J\x7bv\x7d",
      (pieces registry "%v|%J\x7bv\x7d").map (Piece.bind registry)⟩
    compile "%v|%J\x7bv\x7d" registry = .ok t ∧ Unbroken "%v|%J\x7bv\x7d".toList ∧
      (t.line ∅).value.toList.count '\n' = 1 ∧ (t.line ∅).value.toList.count '\r' = 0 := by
  intro registry t
  have compiled : compile "%v|%J\x7bv\x7d" registry = .ok t :=
    compile_eq_ok_iff.mpr ⟨by decide, rfl⟩
  have clear : Unbroken "%v|%J\x7bv\x7d".toList := by simp
  have kept := line_breaks_of_literals compiled ∅ default
  exact ⟨compiled, clear, kept.2.2.2.2 clear⟩

end Template

end Tapline
