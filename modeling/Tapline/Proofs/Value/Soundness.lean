import Tapline.Proofs.Json.Soundness
import Tapline.Proofs.Value.Parts
import Tapline.Value.Tagged
/-!
# Values as they are made

A value promises what its documents promise, and that the entries of its maps ascend by key. A value
that is made of a tagged document promises it whenever the document does, so it does when the
document has been read from a text.

## Main result

`Value.sound_of_text`, for every text that is read and every numbering of hidden values.

## Proof strategy

Values are made in one pass that numbers the hidden ones on its way. `Yields` says what holds of the
result wherever the numbering begins; it goes through the steps of the pass one by one, and the
induction follows the document.
-/

namespace Tapline

/-! ### Results of a numbering pass -/

/-- Wherever the numbering begins, the result is such. -/
def Yields {α : Type} (pass : StateM Nat α) (holds : α → Prop) : Prop :=
  ∀ n, holds (pass.run n).1

namespace Yields

variable {α β : Type} {P : α → Prop} {Q : β → Prop}

theorem pure {a : α} (holds : P a) : Yields (Pure.pure a) P := fun _ => holds

theorem bind {pass : StateM Nat α} {next : α → StateM Nat β} (first : Yields pass P)
    (later : ∀ a, P a → Yields (next a) Q) : Yields (pass >>= next) Q := by
  intro n
  exact later (pass.run n).1 (first n) (pass.run n).2

end Yields

namespace Value

/-! ### Making values -/

theorem Sound.json {document : Json} (sound : document.Sound) : Sound (.json document) where
  ascending := nofun
  documents := fun other inside => by
    cases inside
    exact sound

theorem Sound.ofEntries {entries : List (String × Value)}
    (each : ∀ entry ∈ entries, Sound entry.2) : (ofEntries entries).Sound := by
  refine .map (ascending_foldl_insertEntry List.Pairwise.nil) fun entry placed => ?_
  rcases mem_foldl_insertEntry placed with none | given
  · cases none
  · exact each entry given

theorem Sound.wrapped {v : Value} (sound : v.Sound) (sort : String) (n : Nat) :
    (wrapped sort n v).Sound := by
  induction n generalizing v with
  | zero => exact sound
  | succ n ih =>
    apply ih
    split
    · refine .map (List.pairwise_singleton _ _) ?_
      simpa using sound
    · refine .list ?_
      simpa using sound

theorem sound_ofTag (name : String) {document : Json} (sound : document.Sound) :
    (ofTag name document).Sound := by
  unfold ofTag
  split
  case h_9 => exact .json sound
  -- No other of these values has a part.
  all_goals exact ⟨nofun, nofun⟩

theorem sound_ofLabel (content : String → String) (label : String) :
    Yields (ofLabel content label) Sound := by
  intro n
  change Sound (.hidden ⟨label, n, ⟨.text, content label⟩⟩)
  exact ⟨nofun, nofun⟩

/-! ### Tagged documents -/

mutual

theorem sound_ofTagged (content : String → String) {document : Json} (sound : document.Sound) :
    Yields (ofTagged content document) Sound := by
  unfold ofTagged
  split
  next sort count inner =>
    have within : Json.Sound (.array [sort, count, inner]) := sound.value List.mem_cons_self
    have nested : inner.Sound := within.item (by simp)
    exact (sound_ofTagged content nested).bind
      fun v made => .pure (made.wrapped sort.text count.nat)
  next name items _ =>
    have within : Json.Sound (.array items) := sound.value List.mem_cons_self
    split
    · exact (sound_ofTaggedItems content fun item => within.item).bind
        fun values each => .pure (.list each)
    split
    · exact .pure ⟨nofun, nofun⟩
    · exact .pure (sound_ofTag name within)
  next name members =>
    have within : Json.Sound (.object members) := sound.value List.mem_cons_self
    split
    · exact (sound_ofTaggedMembers content fun member => within.value).bind
        fun entries each => .pure (.ofEntries each)
    split
    · exact sound_ofLabel content _
    · exact .pure (sound_ofTag name within)
  next name document _ _ _ =>
    have within : document.Sound := sound.value List.mem_cons_self
    split
    · exact sound_ofLabel content _
    · exact .pure (sound_ofTag name within)
  · exact .pure ⟨nofun, nofun⟩

theorem sound_ofTaggedItems (content : String → String) {items : List Json}
    (each : ∀ item ∈ items, item.Sound) :
    Yields (ofTaggedItems content items) fun values : List Value => ∀ v ∈ values, v.Sound := by
  match items with
  | [] => exact .pure nofun
  | item :: rest =>
    obtain ⟨first, later⟩ := List.forall_mem_cons.mp each
    refine (sound_ofTagged content first).bind fun value sound => ?_
    refine (sound_ofTaggedItems content later).bind fun values others => ?_
    exact .pure (List.forall_mem_cons.mpr ⟨sound, others⟩)

theorem sound_ofTaggedMembers (content : String → String) {members : List (String × Json)}
    (each : ∀ member ∈ members, member.2.Sound) :
    Yields (ofTaggedMembers content members) fun entries : List (String × Value) =>
      ∀ entry ∈ entries, entry.2.Sound := by
  match members with
  | [] => exact .pure nofun
  | (key, item) :: rest =>
    obtain ⟨first, later⟩ := List.forall_mem_cons.mp each
    refine (sound_ofTagged content first).bind fun value sound => ?_
    refine (sound_ofTaggedMembers content later).bind fun entries others => ?_
    exact .pure (List.forall_mem_cons.mpr ⟨sound, others⟩)

end

/-- **A value made of what is read from a text is sound.** -/
theorem sound_of_text (content : String → String) {text : String} {document : Json}
    (read : Json.read? text = some document) (n : Nat) :
    ((ofTagged content document).run n).1.Sound :=
  sound_ofTagged content (Json.sound_of_read? read) n

end Value

end Tapline
