import Tapline.Json.Reader
import Tapline.Proofs.Json.ReadBack
/-!
# Documents as they are read

A document promises two things that its type does not say: the members of its objects ascend by
key, and its integers fit 64 bits. Whatever the text is, the reader gives documents that keep both.

## Main result

`Json.sound_of_read?`.

## Proof strategy

Objects are made by `Json.ofMembers`, which puts each member at its place, and a numeral is an
integer only if it fits. The three readers call each other with less fuel, so they are taken
together in an induction on the fuel.
-/

namespace Tapline

/-! ### Entries at their places -/

section

variable {α : Type u} {made entries : List (String × α)}

theorem ascending_foldl_insertEntry (ascending : Ascending made) :
    Ascending (entries.foldl (fun made entry => insertEntry entry.1 entry.2 made) made) := by
  induction entries generalizing made with
  | nil => exact ascending
  | cons entry rest ih => exact ih (ascending_insertEntry ascending)

theorem mem_foldl_insertEntry {entry : String × α}
    (member : entry ∈ entries.foldl (fun made entry => insertEntry entry.1 entry.2 made) made) :
    entry ∈ made ∨ entry ∈ entries := by
  induction entries generalizing made with
  | nil => exact .inl member
  | cons first rest ih =>
    rcases ih member with placed | later
    · rcases mem_insertEntry placed with rfl | earlier
      · exact .inr List.mem_cons_self
      · exact .inl earlier
    · exact .inr (List.mem_cons_of_mem _ later)

end

namespace Json

theorem Sound.ofMembers {members : List (String × Json)}
    (each : ∀ member ∈ members, Sound member.2) : (ofMembers members).Sound := by
  refine .object (ascending_foldl_insertEntry List.Pairwise.nil) fun member placed => ?_
  rcases mem_foldl_insertEntry placed with none | given
  · cases none
  · exact each member given

/-! ### Numbers -/

theorem isWord_of_numberOf? {cs : List Char} {n : Int} (read : numberOf? cs = some (.integer n)) :
    IsWord n := by
  unfold numberOf? at read
  cases formed : wellFormedNumeral cs with
  | false => simp [formed] at read
  | true =>
    cases parsed : Decimal.ofText? cs with
    | none => simp [formed, parsed] at read
    | some decimal =>
      simp only [formed, parsed, Bool.not_true, Bool.false_eq_true, if_false, Option.bind_eq_bind,
        Option.bind_some] at read
      generalize (if decimal.negative then -(decimal.digits : Int) else decimal.digits) = value
        at read
      split at read
      next guard =>
        -- The guard of an integer has compared the bounds.
        obtain ⟨-, above, below, -⟩ := guard
        obtain rfl : value = n := by simpa using read
        exact ⟨above, below⟩
      next => simp at read

theorem sound_of_readNumber {cs rest : List Char} {document : Json}
    (read : readNumber cs = some (document, rest)) : document.Sound := by
  simp only [readNumber, Option.bind_eq_bind, Option.bind_eq_some_iff] at read
  obtain ⟨n, number, same⟩ := read
  obtain ⟨rfl, -⟩ := Prod.mk.inj (Option.some.inj same)
  cases n with
  | integer n => exact .integer (isWord_of_numberOf? number)
  | double x => exact .double x

/-! ### Readers -/

/-- With so much fuel, the readers give sound documents only. -/
structure ReadsSound (fuel : Nat) : Prop where
  document : ∀ {cs rest document}, readDocument fuel cs = some (document, rest) → document.Sound
  items : ∀ {cs rest items}, readItems fuel cs = some (items, rest) → ∀ item ∈ items, item.Sound
  members : ∀ {cs rest members}, readMembers fuel cs = some (members, rest) →
    ∀ member ∈ members, member.2.Sound

theorem ReadsSound.next_document {fuel : Nat} (reads : ReadsSound fuel) {cs rest : List Char}
    {document : Json} (read : readDocument (fuel + 1) cs = some (document, rest)) :
    document.Sound := by
  unfold readDocument at read
  split at read
  -- The words stand for themselves.
  · cases read
    exact .null
  · cases read
    exact .bool true
  · cases read
    exact .bool false
  · simp only [Option.bind_eq_bind, Option.bind_eq_some_iff] at read
    obtain ⟨⟨s, more⟩, -, same⟩ := read
    cases same
    exact .string s
  -- A container is closed at once, or the reader of its contents goes on.
  · split at read
    · cases read
      exact .array (List.forall_mem_nil _)
    · simp only [Option.bind_eq_bind, Option.bind_eq_some_iff] at read
      obtain ⟨⟨items, more⟩, inside, same⟩ := read
      cases same
      exact .array (reads.items inside)
  · split at read
    · cases read
      exact .object List.Pairwise.nil (List.forall_mem_nil _)
    · simp only [Option.bind_eq_bind, Option.bind_eq_some_iff] at read
      obtain ⟨⟨members, more⟩, inside, same⟩ := read
      cases same
      exact .ofMembers (reads.members inside)
  · exact sound_of_readNumber read

theorem ReadsSound.next_items {fuel : Nat} (reads : ReadsSound fuel) {cs rest : List Char}
    {items : List Json} (read : readItems (fuel + 1) cs = some (items, rest)) :
    ∀ item ∈ items, item.Sound := by
  simp only [readItems, Option.bind_eq_bind, Option.bind_eq_some_iff] at read
  obtain ⟨⟨item, more⟩, first, read⟩ := read
  have sound := reads.document first
  simp only at read
  split at read
  · simp only [Option.bind_eq_some_iff] at read
    obtain ⟨⟨others, last⟩, later, same⟩ := read
    cases same
    exact List.forall_mem_cons.mpr ⟨sound, reads.items later⟩
  · cases read
    exact List.forall_mem_singleton.mpr sound
  · cases read

theorem ReadsSound.next_members {fuel : Nat} (reads : ReadsSound fuel) {cs rest : List Char}
    {members : List (String × Json)} (read : readMembers (fuel + 1) cs = some (members, rest)) :
    ∀ member ∈ members, member.2.Sound := by
  unfold readMembers at read
  split at read
  · simp only [Option.bind_eq_bind, Option.bind_eq_some_iff] at read
    obtain ⟨⟨key, more⟩, -, read⟩ := read
    simp only at read
    split at read
    · simp only [Option.bind_eq_some_iff] at read
      obtain ⟨⟨value, left⟩, first, read⟩ := read
      have sound := reads.document first
      simp only at read
      split at read
      · simp only [Option.bind_eq_some_iff] at read
        obtain ⟨⟨others, last⟩, later, same⟩ := read
        cases same
        exact List.forall_mem_cons.mpr ⟨sound, reads.members later⟩
      · cases read
        exact List.forall_mem_singleton.mpr sound
      · cases read
    · cases read
  · cases read

theorem readsSound (fuel : Nat) : ReadsSound fuel := by
  induction fuel with
  | zero => exact ⟨fun read => by simp [readDocument] at read,
      fun read => by simp [readItems] at read, fun read => by simp [readMembers] at read⟩
  | succ fuel reads => exact ⟨reads.next_document, reads.next_items, reads.next_members⟩

/-- **What is read is sound.** -/
theorem sound_of_read? {text : String} {document : Json} (read : read? text = some document) :
    document.Sound := by
  simp only [read?, Option.bind_eq_bind, Option.bind_eq_some_iff] at read
  obtain ⟨⟨made, rest⟩, first, read⟩ := read
  simp only at read
  split at read
  · cases read
    exact (readsSound _).document first
  · cases read

end Json

end Tapline
