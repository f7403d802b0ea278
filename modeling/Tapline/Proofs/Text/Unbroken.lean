import Tapline.Json.Writer
import Tapline.Proofs.Number.Numeral
import Tapline.Text.LineBreaks
/-!
# Texts without line breaks

A text that is placed into a line has no line feed and no carriage return. Two things bring this
about: escaping (`unbroken_inline`), and the form of JSON text, in which every break that a string
or a key holds is escaped (`Json.unbroken_write`).
-/

namespace Tapline

/-- Characters without a line feed and without a carriage return. -/
def Unbroken (cs : List Char) : Prop := ∀ c ∈ cs, c ≠ '\n' ∧ c ≠ '\r'

namespace Unbroken

variable {cs ds : List Char}

@[simp] theorem nil : Unbroken [] := by simp [Unbroken]

@[simp] theorem cons_iff {c : Char} : Unbroken (c :: cs) ↔ (c ≠ '\n' ∧ c ≠ '\r') ∧ Unbroken cs := by
  simp [Unbroken]

@[simp] theorem append_iff : Unbroken (cs ++ ds) ↔ Unbroken cs ∧ Unbroken ds := by
  simp only [Unbroken, List.mem_append]
  constructor
  · intro clear
    exact ⟨fun c member => clear c (Or.inl member), fun c member => clear c (Or.inr member)⟩
  · rintro ⟨left, right⟩ c (member | member)
    · exact left c member
    · exact right c member

theorem flatMap {f : Char → List Char} (each : ∀ c, Unbroken (f c)) : Unbroken (cs.flatMap f) := by
  intro d member
  obtain ⟨c, _, inside⟩ := List.mem_flatMap.mp member
  exact each c d inside

theorem count_eq_zero (clear : Unbroken cs) {c : Char} (isBreak : c = '\n' ∨ c = '\r') :
    cs.count c = 0 := by
  rw [List.count_eq_zero]
  intro member
  rcases isBreak with rfl | rfl
  · exact (clear _ member).1 rfl
  · exact (clear _ member).2 rfl

end Unbroken

theorem unbroken_inline (s : String) : Unbroken (Text.inline s).toList := by
  rw [Text.toList_inline]
  exact Unbroken.flatMap fun _ _ => Text.inlineChar_ne_break

/-- A text without line breaks stands in a line as it is. -/
theorem inline_of_unbroken {s : String} (clear : Unbroken s.toList) : Text.inline s = s := by
  have clean : s.toList.any (fun c => c == '\n' || c == '\r') = false := by
    rw [List.any_eq_false]
    intro c member
    simpa using clear c member
  simp [Text.inline, clean]

theorem unbroken_numeral {cs : List Char} (numeral : ∀ c ∈ cs, Json.isNumeralChar c = true) :
    Unbroken cs := by
  intro c member
  constructor
  · rintro rfl
    exact absurd (numeral _ member) (by decide)
  · rintro rfl
    exact absurd (numeral _ member) (by decide)

/-! ### JSON text -/

namespace Json

theorem unbroken_hexDigit (n : Nat) : hexDigit n ≠ '\n' ∧ hexDigit n ≠ '\r' := by
  have digits : ∀ k < 16, Nat.digitChar k ≠ '\n' ∧ Nat.digitChar k ≠ '\r' := by decide
  exact digits _ (Nat.mod_lt n (by decide))

theorem unbroken_escapeChar (c : Char) : Unbroken (escapeChar c) := by
  unfold escapeChar
  -- Only the last case keeps the character, and there it is neither break.
  split
  · simp
  · split
    · simp
    · split
      · simp
      · split
        · simp
        · split
          · simp
          · split
            · simp
            · split
              · simp
              · split
                · simp [unbroken_hexDigit]
                · simp [*]

theorem unbroken_quote (s : String) : Unbroken (quote s).toList := by
  simp only [quote, String.toList_ofList, Unbroken.cons_iff, Unbroken.append_iff]
  exact ⟨by decide, Unbroken.flatMap unbroken_escapeChar, by decide, Unbroken.nil⟩

theorem unbroken_numberText (n : JsonNumber) : Unbroken (numberText n).toList := by
  cases n with
  | integer n => exact unbroken_numeral fun _ => isNumeralChar_of_mem_toString
  | double x =>
    rw [numberText]
    split
    next finite => exact unbroken_numeral (Binary64.isNumeralChar_of_mem_text finite)
    · simp

mutual

theorem unbroken_write : ∀ document : Json, Unbroken document.write.toList
  | .null => by simp [write]
  | .bool b => by cases b <;> simp [write]
  | .number n => by simpa [write] using unbroken_numberText n
  | .string s => by simpa [write] using unbroken_quote s
  | .array items => by simp [write, unbroken_writeItems items]
  | .object members => by simp [write, unbroken_writeMembers members]

theorem unbroken_writeItems : ∀ items : List Json, Unbroken (writeItems items).toList
  | [] => by simp [writeItems]
  | [item] => by simpa [writeItems] using unbroken_write item
  | item :: next :: rest => by
    simp [writeItems, unbroken_write item, unbroken_writeItems (next :: rest)]

theorem unbroken_writeMembers : ∀ members : List (String × Json),
    Unbroken (writeMembers members).toList
  | [] => by simp [writeMembers]
  | [(key, value)] => by simp [writeMembers, unbroken_quote key, unbroken_write value]
  | (key, value) :: next :: rest => by
    simp [writeMembers, unbroken_quote key, unbroken_write value,
      unbroken_writeMembers (next :: rest)]

end

end Json

end Tapline
