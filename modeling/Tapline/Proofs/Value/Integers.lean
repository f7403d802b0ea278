import Mathlib
import Tapline.Proofs.Value.Alike
/-!
# Integers of any type

An integer is put into a bag from a type with a sign or from one without, of sixteen bits or more.
What the value holds is the integer: both integer views find it where it fits them, its text and its
JSON text are its decimal digits, and these read back to it. Nothing that is read or printed tells
which type it came from.

## Main result

`integers_survive`.
-/

namespace Tapline

namespace Value

/-- A value that holds an integer, stored with or without a sign. -/
inductive Holds : Value → Int → Prop
  | signed (m : Int64) : Holds (.int m) m.toInt
  | unsigned (m : UInt64) : Holds (.uint m) m.toNat

theorem IntegerType.holds_iff {type : IntegerType} {n : Int} :
    type.holds n = true ↔ type.range.1 ≤ n ∧ n ≤ type.range.2 := by
  simp [IntegerType.holds]

/-- A number of an integer type is stored whole. -/
theorem holds_ofInteger {type : IntegerType} {n : Int} (fits : type.holds n = true) :
    (ofInteger type n).Holds n := by
  rw [IntegerType.holds_iff] at fits
  have signed (least : -0x8000000000000000 ≤ n) (greatest : n ≤ 0x7FFFFFFFFFFFFFFF) :
      Holds (.int (Int64.ofInt n)) n := by
    have stored := Holds.signed (Int64.ofInt n)
    rwa [Int64.toInt_ofInt_of_le (by omega) (by omega)] at stored
  have unsigned (least : 0 ≤ n) (greatest : n ≤ 0xFFFFFFFFFFFFFFFF) :
      Holds (.uint (UInt64.ofNat n.toNat)) n := by
    have stored := Holds.unsigned (UInt64.ofNat n.toNat)
    have small : n.toNat < UInt64.size := by
      rw [UInt64.size]
      omega
    rwa [UInt64.toNat_ofNat_of_lt' small, Int.toNat_of_nonneg least] at stored
  cases type with
  | signed16 | signed32 | signed64 =>
    simp only [IntegerType.range] at fits
    exact signed (by omega) (by omega)
  | unsigned16 | unsigned32 | unsigned64 | word =>
    simp only [IntegerType.range] at fits
    exact unsigned (by omega) (by omega)

namespace Holds

variable {v w : Value} {n : Int}

/-- The signed view finds what fits 64 bits with a sign. -/
theorem asInt? (holds : v.Holds n) :
    v.asInt?.map Int64.toInt = if IntegerType.signed64.holds n then some n else none := by
  simp only [IntegerType.holds_iff, IntegerType.range]
  cases holds with
  | signed m =>
    have least := m.le_toInt
    have greatest := m.toInt_lt
    rw [if_pos (by omega)]
    rfl
  | unsigned m =>
    rw [Value.asInt?]
    split
    next fits =>
      rw [if_pos (by omega), Option.map_some, Int64.toInt_ofNat_of_lt (by omega)]
    next tooLarge => rw [if_neg (by omega), Option.map_none]

/-- The unsigned view finds what fits 64 bits without a sign. -/
theorem asUInt? (holds : v.Holds n) :
    v.asUInt?.map (fun m => (m.toNat : Int)) =
      if IntegerType.unsigned64.holds n then some n else none := by
  simp only [IntegerType.holds_iff, IntegerType.range]
  cases holds with
  | unsigned m =>
    have greatest := m.toNat_lt
    rw [if_pos (by omega)]
    rfl
  | signed m =>
    rw [Value.asUInt?]
    split
    next least =>
      have greatest := m.toInt_lt
      have small : m.toInt.toNat < UInt64.size := by
        rw [UInt64.size]
        omega
      rw [if_pos (by omega), Option.map_some, UInt64.toNat_ofNat_of_lt' small,
        Int.toNat_of_nonneg least]
    next negative => rw [if_neg (by omega), Option.map_none]

theorem display (holds : v.Holds n) : v.display = toString n := by
  cases holds with
  | signed m => rw [Value.display]
  | unsigned m => rw [Value.display]; rfl

theorem toJson (holds : v.Holds n) : v.toJson = .ok (.ofInt n) := by
  cases holds with
  | signed m => rw [Value.toJson]
  | unsigned m => rw [Value.toJson]; rfl

theorem jsonText (holds : v.Holds n) : v.jsonText = .ok (toString n) := by
  rw [jsonText_eq_map_write, holds.toJson]
  rfl

theorem isWord (holds : v.Holds n) : Json.IsWord n := by
  cases holds with
  | signed m => exact Json.isWord_toInt m
  | unsigned m => exact Json.isWord_toNat m

/-- Which way an integer is stored is seen nowhere. -/
theorem alike (holds : v.Holds n) (holds' : w.Holds n) : v.Alike w := by
  have int : v.asInt? = w.asInt? := by
    apply Option.map_injective fun _ _ => Int64.toInt_inj.mp
    rw [holds.asInt?, holds'.asInt?]
  have uint : v.asUInt? = w.asUInt? := by
    apply Option.map_injective (f := fun m : UInt64 => (m.toNat : Int)) fun _ _ same =>
      UInt64.toNat_inj.mp (Int.ofNat_inj.mp same)
    rw [holds.asUInt?, holds'.asUInt?]
  have float : v.asFloat? = some (.ofInt n) ∧ w.asFloat? = some (.ofInt n) := by
    constructor
    · cases holds <;> rfl
    · cases holds' <;> rfl
  have plain : ∀ {u : Value}, u.Holds n → u.isNull = false ∧ u.asText? = none ∧ u.asBool? = none ∧
      u.asTime? = none ∧ u.asDuration? = none ∧ u.asError? = none := by
    intro u holds
    cases holds <;> exact ⟨rfl, rfl, rfl, rfl, rfl, rfl⟩
  obtain ⟨isNull, text, bool, time, duration, error⟩ := plain holds
  obtain ⟨isNull', text', bool', time', duration', error'⟩ := plain holds'
  exact
    { isNull := isNull.trans isNull'.symm
      text := text.trans text'.symm
      int
      uint
      float := float.1.trans float.2.symm
      bool := bool.trans bool'.symm
      time := time.trans time'.symm
      duration := duration.trans duration'.symm
      error := error.trans error'.symm
      document := holds.toJson.trans holds'.toJson.symm
      display := holds.display.trans holds'.display.symm }

end Holds

/-- **Integers survive the bag, whatever type they came from.** A number of an integer type is read
back from a bag as it was put in. The signed view and the unsigned one have the number exactly if it
is in their range, and where it is not, the bag answers zero for them. Its text and its JSON text are
its decimal digits, and both a reader of numbers and the reader of JSON find the number in them. The
same number of another type looks alike, in lists and maps too: a bag that holds it instead answers
the same for every name and has the same line for every template over the standard fields. -/
theorem integers_survive (type : IntegerType) (n : Int) (fits : type.holds n = true) (bag : Bag)
    (name : String) :
    let v := ofInteger type n
    let held : Bag := bag.insert name v
    let signed := IntegerType.signed64.holds n
    let unsigned := IntegerType.unsigned64.holds n
    held.get? name = some v ∧
    v.asInt?.map Int64.toInt = (if signed then some n else none) ∧
    v.asUInt?.map (fun m => (m.toNat : Int)) = (if unsigned then some n else none) ∧
    (held.int name).toInt = (if signed then n else 0) ∧
    ((held.uint name).toNat : Int) = (if unsigned then n else 0) ∧
    v.display = toString n ∧ v.jsonText = .ok (toString n) ∧
    (toString n).toInt? = some n ∧ Json.read? (toString n) = some (.ofInt n) ∧
    ∀ other : IntegerType, other.holds n = true →
      let w := ofInteger other n
      let held' : Bag := bag.insert name w
      w.Alike v ∧
      (∀ before after, (list (before ++ w :: after)).Alike (list (before ++ v :: after))) ∧
      (∀ before key after,
        (map (before ++ (key, w) :: after)).Alike (map (before ++ (key, v) :: after))) ∧
      (∀ key, held'.int key = held.int key ∧ held'.uint key = held.uint key ∧
        held'.float key = held.float key) ∧
      ∀ source t, Template.compile source .standard = .ok t → t.line held' = t.line held := by
  intro v held signed unsigned
  have holds : v.Holds n := holds_ofInteger fits
  have found : held.get? name = some v := KeyMap.get?_insert_self bag name v
  refine ⟨found, holds.asInt?, holds.asUInt?, ?_, ?_, holds.display, holds.jsonText,
    Int.toInt?_repr n, ?_, ?_⟩
  · have view := holds.asInt?
    rw [Bag.int, found, Option.bind_some, ← Option.getD_map Int64.toInt, view]
    split <;> rfl
  · have view := holds.asUInt?
    rw [Bag.uint, found, Option.bind_some,
      ← Option.getD_map (fun m : UInt64 => (m.toNat : Int)), view]
    split <;> rfl
  · have written : (Json.ofInt n).write = toString n := rfl
    rw [← written]
    exact Json.read?_write (.integer holds.isWord)
  · intro other fits' w held'
    have alike : w.Alike v := (holds_ofInteger fits').alike holds
    have bags : Bag.Alike held' held := (Bag.Alike.refl bag).insert name alike
    refine ⟨alike, fun before after => ?_, fun before key after => ?_, fun key => ?_,
      fun source t compiled => Template.line_of_alike compiled bags⟩
    · apply alike_list
      exact List.rel_append (List.forall₂_same.mpr fun item _ => .refl item)
        (.cons alike (List.forall₂_same.mpr fun item _ => .refl item))
    · apply alike_map
      exact List.rel_append (EntriesAlike.refl before)
        (.cons ⟨rfl, alike⟩ (EntriesAlike.refl after))
    · exact ⟨bags.int key, bags.uint key, bags.float key⟩

/-- The greatest number with a sign, from a type with one and from a type without. The next number
has no place in the signed view. -/
theorem greatest_signed_survives :
    let n : Int := 0x7FFFFFFFFFFFFFFF
    IntegerType.signed64.holds n = true ∧ IntegerType.word.holds n = true ∧
    (ofInteger .word n).asInt?.map Int64.toInt = some n ∧
    (ofInteger .signed64 n).asUInt?.map (fun m => (m.toNat : Int)) = some n ∧
    (ofInteger .word n).Alike (ofInteger .signed64 n) ∧
    IntegerType.word.holds (n + 1) = true ∧ (ofInteger .word (n + 1)).asInt? = none ∧
    Bag.int (KeyMap.empty.insert "n" (ofInteger .word (n + 1))) "n" = 0 := by
  intro n
  have fits : IntegerType.signed64.holds n = true := by decide
  have fits' : IntegerType.word.holds n = true := by decide
  have next : IntegerType.word.holds (n + 1) = true := by decide
  have outside : IntegerType.signed64.holds (n + 1) = false := by decide
  obtain ⟨-, int, -⟩ := integers_survive .word n fits' .empty "n"
  obtain ⟨-, -, uint, -, -, -, -, -, -, others⟩ := integers_survive .signed64 n fits .empty "n"
  obtain ⟨-, beyond, -, zero, -⟩ := integers_survive .word (n + 1) next .empty "n"
  have within : IntegerType.unsigned64.holds n = true := by decide
  rw [if_pos fits] at int
  rw [if_pos within] at uint
  rw [outside, if_neg Bool.false_ne_true] at beyond zero
  refine ⟨fits, fits', int, uint, (others .word fits').1, next, ?_, ?_⟩
  · exact Option.map_eq_none_iff.mp beyond
  · exact Int64.toInt_inj.mp (zero.trans Int64.toInt_zero.symm)

end Value

end Tapline
