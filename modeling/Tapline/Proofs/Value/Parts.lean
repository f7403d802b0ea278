import Mathlib.Data.List.Forall2
import Tapline.Proofs.Json.ReadBack
import Tapline.Proofs.Value.Encode
/-!
# Parts of a value

What a value holds at any depth decides about its JSON form: an opaque part means that there is
none, and without floats the form is a document that reads back. The entries of a map keep their
keys and their order in the document.
-/

namespace Tapline

namespace Value

/-- Being a value or a part of it, at any depth. -/
inductive Within (part : Value) : Value → Prop
  | here : Within part part
  | item {item : Value} {items : List Value} (member : item ∈ items)
      (inside : Within part item) : Within part (.list items)
  | entry {key : String} {value : Value} {entries : List (String × Value)}
      (member : (key, value) ∈ entries) (inside : Within part value) : Within part (.map entries)

/-- What the type of values promises, at any depth. Values that are made of a text keep it
(`Value.sound_of_text`). -/
structure Sound (v : Value) : Prop where
  ascending : ∀ entries, Within (.map entries) v → Ascending entries
  documents : ∀ document, Within (.json document) v → document.Sound

/-- Without a float at any depth, documents included. -/
structure NoFloat (v : Value) : Prop where
  floats : ∀ x, ¬ Within (.float x) v
  documents : ∀ document, Within (.json document) v → document.NoDouble

namespace Sound

theorem list {items : List Value} (each : ∀ item ∈ items, Sound item) : Sound (.list items) where
  ascending := fun entries inside => by
    cases inside with
    | item member inside => exact (each _ member).ascending entries inside
  documents := fun document inside => by
    cases inside with
    | item member inside => exact (each _ member).documents document inside

theorem map {entries : List (String × Value)} (ascending : Ascending entries)
    (each : ∀ entry ∈ entries, Sound entry.2) : Sound (.map entries) where
  ascending := fun others inside => by
    cases inside with
    | here => exact ascending
    | entry member inside => exact (each _ member).ascending others inside
  documents := fun document inside => by
    cases inside with
    | entry member inside => exact (each _ member).documents document inside

theorem item {items : List Value} (sound : Sound (.list items)) {item : Value}
    (member : item ∈ items) : Sound item where
  ascending := fun entries inside => sound.ascending entries (.item member inside)
  documents := fun document inside => sound.documents document (.item member inside)

theorem value {entries : List (String × Value)} (sound : Sound (.map entries)) {key : String}
    {value : Value} (member : (key, value) ∈ entries) : Sound value where
  ascending := fun entries inside => sound.ascending entries (.entry member inside)
  documents := fun document inside => sound.documents document (.entry member inside)

end Sound

namespace NoFloat

theorem item {items : List Value} (clear : NoFloat (.list items)) {item : Value}
    (member : item ∈ items) : NoFloat item where
  floats := fun x inside => clear.floats x (.item member inside)
  documents := fun document inside => clear.documents document (.item member inside)

theorem value {entries : List (String × Value)} (clear : NoFloat (.map entries)) {key : String}
    {value : Value} (member : (key, value) ∈ entries) : NoFloat value where
  floats := fun x inside => clear.floats x (.entry member inside)
  documents := fun document inside => clear.documents document (.entry member inside)

end NoFloat

/-! ### Opaque parts -/

theorem firstHiddenItem?_eq_none_iff {items : List Value} :
    firstHiddenItem? items = none ↔ ∀ item ∈ items, firstHidden? item = none := by
  induction items with
  | nil => simp [firstHiddenItem?]
  | cons item items ih => simp [firstHiddenItem?, ih]

theorem firstHiddenBinding?_eq_none_iff {entries : List (String × Value)} :
    firstHiddenBinding? entries = none ↔ ∀ entry ∈ entries, firstHidden? entry.2 = none := by
  induction entries with
  | nil => simp [firstHiddenBinding?]
  | cons entry entries ih =>
    obtain ⟨key, value⟩ := entry
    simp [firstHiddenBinding?, ih]

theorem firstHidden?_ne_none {o : Opaque} {v : Value} (inside : Within (.hidden o) v) :
    firstHidden? v ≠ none := by
  induction inside with
  | here => simp [firstHidden?]
  | item member _ ih =>
    rw [firstHidden?, ne_eq, firstHiddenItem?_eq_none_iff]
    exact fun clear => ih (clear _ member)
  | entry member _ ih =>
    rw [firstHidden?, ne_eq, firstHiddenBinding?_eq_none_iff]
    exact fun clear => ih (clear _ member)

theorem firstHidden?_eq_none {v : Value} (clear : ∀ o, ¬ Within (.hidden o) v) :
    firstHidden? v = none := by
  match v with
  | .null | .text _ | .int _ | .uint _ | .float _ | .bool _ | .time _ | .duration _ | .bytes _
  | .json _ | .error _ => rw [firstHidden?] <;> nofun
  | .hidden o => exact absurd .here (clear o)
  | .list items =>
    rw [firstHidden?, firstHiddenItem?_eq_none_iff]
    exact fun item member => firstHidden?_eq_none fun o inside => clear o (.item member inside)
  | .map entries =>
    rw [firstHidden?, firstHiddenBinding?_eq_none_iff]
    exact fun entry member => firstHidden?_eq_none fun o inside => clear o (.entry member inside)
termination_by sizeOf v
decreasing_by
  · have less := List.sizeOf_lt_of_mem member
    simp only [list.sizeOf_spec]
    omega
  · have less := Json.sizeOf_value_lt member
    simp only [map.sizeOf_spec]
    omega

/-- There is no first opaque part exactly when there is none at all. -/
theorem firstHidden?_eq_none_iff {v : Value} :
    firstHidden? v = none ↔ ∀ o, ¬ Within (.hidden o) v :=
  ⟨fun clear _ inside => firstHidden?_ne_none inside clear, firstHidden?_eq_none⟩

theorem firstHiddenBinding?_eq_none_iff_within {entries : List (String × Value)} :
    firstHiddenBinding? entries = none ↔ ∀ entry ∈ entries, ∀ o, ¬ Within (.hidden o) entry.2 := by
  simp only [firstHiddenBinding?_eq_none_iff, firstHidden?_eq_none_iff]

/-! ### The document -/

theorem toJsonItems_eq_ok_iff {items : List Value} {documents : List Json} :
    toJsonItems items = .ok documents ↔
      List.Forall₂ (fun item document => toJson item = .ok document) items documents := by
  induction items generalizing documents with
  | nil => cases documents <;> simp [toJsonItems]
  | cons item items ih =>
    rw [toJsonItems]
    cases made : toJson item with
    | error e => cases documents <;> simp [bind, Except.bind, made]
    | ok document =>
      cases others : toJsonItems items with
      | error e => cases documents <;> simp [bind, Except.bind, ← ih, others]
      | ok rest =>
        cases documents <;> simp [bind, Except.bind, pure, Except.pure, ← ih, made, others]

theorem toJsonEntries_eq_ok_iff {entries : List (String × Value)}
    {members : List (String × Json)} :
    toJsonEntries entries = .ok members ↔
      List.Forall₂ (fun entry member => entry.1 = member.1 ∧ toJson entry.2 = .ok member.2)
        entries members := by
  induction entries generalizing members with
  | nil => cases members <;> simp [toJsonEntries]
  | cons entry entries ih =>
    obtain ⟨key, value⟩ := entry
    rw [toJsonEntries]
    cases made : toJson value with
    | error e => cases members <;> simp [bind, Except.bind, made]
    | ok document =>
      cases others : toJsonEntries entries with
      | error e => cases members <;> simp [bind, Except.bind, ← ih, others]
      | ok rest =>
        cases members <;>
          simp [bind, Except.bind, pure, Except.pure, ← ih, made, others, Prod.ext_iff]

theorem toJson_list_eq_ok_iff {items : List Value} {document : Json} :
    toJson (.list items) = .ok document ↔
      ∃ documents, toJsonItems items = .ok documents ∧ .array documents = document := by
  rw [toJson]
  cases toJsonItems items <;> simp [bind, Except.bind, pure, Except.pure]

theorem toJson_map_eq_ok_iff {entries : List (String × Value)} {document : Json} :
    toJson (.map entries) = .ok document ↔
      ∃ members, toJsonEntries entries = .ok members ∧ .object members = document := by
  rw [toJson]
  cases toJsonEntries entries <;> simp [bind, Except.bind, pure, Except.pure]

theorem ascending_of_same_keys {α : Type u} {β : Type v} {entries : List (String × α)}
    {members : List (String × β)}
    (same : List.Forall₂ (fun entry member => entry.1 = member.1) entries members)
    (ascending : Ascending entries) : Ascending members := by
  -- Ascending is a matter of the keys alone.
  have keys : entries.map Prod.fst = members.map Prod.fst := by
    induction same with
    | nil => rfl
    | cons head _ ih =>
      simp [head, ih (List.pairwise_cons.mp ascending).2]
  unfold Ascending at ascending ⊢
  rw [← List.pairwise_map (f := Prod.fst) (R := fun a b => a < b)] at ascending ⊢
  rw [← keys]
  exact ascending

theorem exists_of_forall₂ {α : Type u} {β : Type v} {related : α → β → Prop} {given : List α}
    {made : List β} (each : List.Forall₂ related given made) {b : β} (member : b ∈ made) :
    ∃ a ∈ given, related a b := by
  induction each with
  | nil => cases member
  | cons head _ ih =>
    rcases List.mem_cons.mp member with rfl | later
    · exact ⟨_, List.mem_cons_self, head⟩
    · obtain ⟨a, inside, holds⟩ := ih later
      exact ⟨a, List.mem_cons_of_mem _ inside, holds⟩

/-- Without floats, the document of a value reads back from its text. -/
theorem toJson_plain {v : Value} {document : Json} (sound : Sound v) (clear : NoFloat v)
    (made : toJson v = .ok document) : document.Plain := by
  match v with
  | .null =>
    obtain rfl : Json.null = document := by simpa [toJson] using made
    exact .null
  | .text _ | .time _ | .duration _ | .bytes _ | .error _ =>
    obtain ⟨s, rfl⟩ : ∃ s, document = .string s := by
      rw [toJson] at made
      exact ⟨_, (Except.ok.inj made).symm⟩
    exact .string s
  | .bool b =>
    obtain rfl : Json.bool b = document := by simpa [toJson] using made
    exact .bool b
  | .int n =>
    obtain rfl : Json.ofInt n.toInt = document := by simpa [toJson] using made
    exact .integer (Json.isWord_toInt n)
  | .uint n =>
    obtain rfl : Json.ofNat n.toNat = document := by simpa [toJson] using made
    exact .integer (Json.isWord_toNat n)
  | .float x => exact absurd .here (clear.floats x)
  | .json d =>
    obtain rfl : d = document := by simpa [toJson] using made
    exact ⟨sound.documents d .here, clear.documents d .here⟩
  | .hidden o => simp [toJson] at made
  | .list items =>
    obtain ⟨documents, inside, rfl⟩ := toJson_list_eq_ok_iff.mp made
    refine .array fun document member => ?_
    obtain ⟨item, given, made⟩ := exists_of_forall₂ (toJsonItems_eq_ok_iff.mp inside) member
    exact toJson_plain (sound.item given) (clear.item given) made
  | .map entries =>
    obtain ⟨members, inside, rfl⟩ := toJson_map_eq_ok_iff.mp made
    -- The document of a map has the keys of the map, so they ascend as well.
    have related := toJsonEntries_eq_ok_iff.mp inside
    have ascending := ascending_of_same_keys (related.imp fun _ _ both => both.1)
      (sound.ascending entries .here)
    refine .object ascending fun member taken => ?_
    obtain ⟨entry, given, -, made⟩ := exists_of_forall₂ related taken
    exact toJson_plain (sound.value given) (clear.value given) made
termination_by sizeOf v
decreasing_by
  · have less := List.sizeOf_lt_of_mem given
    simp only [list.sizeOf_spec]
    omega
  · have less := Json.sizeOf_value_lt given
    simp only [map.sizeOf_spec]
    omega

end Value

end Tapline
