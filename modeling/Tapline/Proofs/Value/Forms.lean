import Tapline.Proofs.Value.Parts
import Tapline.Value.Display
/-!
# The forms of a value

A value has a text form and, unless an opaque value stands in it somewhere, a JSON form. The JSON
form is reached on two ways, and text and JSON carry the same content.

Which opaque value is to blame is a matter of its place. A place is the row of steps that lead to a
part, from the outside in; items come in the order of their list and entries in the order of their
keys, so depth-first order is the lexicographic order of places.

## Main results

- `json_ways_agree`: both ways to the JSON form succeed without an opaque part and agree there;
  otherwise both name the opaque part whose place comes first.
- `text_and_json_agree`: the JSON text of a value is its text form, in quotes if it is of a sort
  that JSON has only strings for.
-/

namespace Tapline

namespace Value

/-! ### Places -/

/-- A step from a value to a part of it. -/
inductive Step where
  | item (index : Nat)
  | entry (key : String)
deriving DecidableEq, Repr

/-- Items in the order of the list, entries in the order of their keys by code point. -/
inductive Step.Before : Step → Step → Prop
  | item {i j : Nat} : i < j → Before (.item i) (.item j)
  | entry {k l : String} : k < l → Before (.entry k) (.entry l)

/-- Where a part stands in a value, each step leading further in. -/
inductive At (part : Value) : List Step → Value → Prop
  | here : At part [] part
  | item {i : Nat} {place : List Step} {item : Value} {items : List Value}
      (found : items[i]? = some item) (inside : At part place item) :
      At part (.item i :: place) (.list items)
  | entry {key : String} {place : List Step} {value : Value} {entries : List (String × Value)}
      (member : (key, value) ∈ entries) (inside : At part place value) :
      At part (.entry key :: place) (.map entries)

/-- Depth-first order. -/
def Earlier (place other : List Step) : Prop := List.Lex Step.Before place other

/-- No opaque part stands earlier than this one. -/
structure IsFirst (o : Opaque) (place : List Step) (v : Value) : Prop where
  stands : At (.hidden o) place v
  earliest : ∀ p other, At (.hidden p) other v → other = place ∨ Earlier place other

theorem At.within {part v : Value} {place : List Step} (stands : At part place v) :
    Within part v := by
  induction stands with
  | here => exact .here
  | item found _ ih => exact .item (List.mem_of_getElem? found) ih
  | entry member _ ih => exact .entry member ih

/-! ### The first opaque part -/

theorem firstHiddenItem?_eq_findSome? (items : List Value) :
    firstHiddenItem? items = items.findSome? firstHidden? := by
  induction items with
  | nil => rfl
  | cons item rest ih =>
    rw [firstHiddenItem?, ih, List.findSome?_cons]
    cases firstHidden? item <;> rfl

theorem firstHiddenBinding?_eq_findSome? (entries : List (String × Value)) :
    firstHiddenBinding? entries = entries.findSome? fun entry => firstHidden? entry.2 := by
  induction entries with
  | nil => rfl
  | cons entry rest ih =>
    obtain ⟨key, value⟩ := entry
    rw [firstHiddenBinding?, ih, List.findSome?_cons]
    cases firstHidden? value <;> rfl

/-- Items before the one that holds the first opaque part hold none. -/
theorem IsFirst.item {o : Opaque} {place : List Step} {item : Value} (first : IsFirst o place item)
    {before : List Value} (clear : ∀ other ∈ before, firstHidden? other = none)
    (after : List Value) :
    IsFirst o (.item before.length :: place) (.list (before ++ item :: after)) where
  stands := .item (by simp) first.stands
  earliest := by
    rintro p _ (_ | @⟨i, other, value, _, found, inside⟩)
    rcases Nat.lt_trichotomy i before.length with less | rfl | greater
    · rw [List.getElem?_append_left less] at found
      exact absurd (clear value (List.mem_of_getElem? found)) (firstHidden?_ne_none inside.within)
    · obtain rfl : item = value := by simpa using found
      rcases first.earliest p other inside with rfl | later
      · exact Or.inl rfl
      · exact Or.inr (.cons later)
    · exact Or.inr (.rel (.item greater))

/-- The same for the entries of a map, whose keys ascend. -/
theorem IsFirst.entry {o : Opaque} {place : List Step} {key : String} {value : Value}
    (first : IsFirst o place value) {before after : List (String × Value)}
    (clear : ∀ entry ∈ before, firstHidden? entry.2 = none)
    (ascending : Ascending (before ++ (key, value) :: after)) :
    IsFirst o (.entry key :: place) (.map (before ++ (key, value) :: after)) where
  stands := .entry (by simp) first.stands
  earliest := by
    rintro p _ (_ | _ | @⟨name, other, content, _, member, inside⟩)
    rcases List.mem_append.mp member with early | late
    · exact absurd (clear _ early) (firstHidden?_ne_none inside.within)
    · rcases List.mem_cons.mp late with same | later
      · cases same
        rcases first.earliest p other inside with rfl | later
        · exact Or.inl rfl
        · exact Or.inr (.cons later)
      · have above := (List.pairwise_cons.mp (List.pairwise_append.mp ascending).2.1).1
        exact Or.inr (.rel (.entry (above _ later)))

/-- What is met first, depth first, has the earliest place. -/
theorem exists_isFirst {v : Value} {o : Opaque} (sound : Sound v) (found : firstHidden? v = some o) :
    ∃ place, IsFirst o place v := by
  match v with
  | .null | .text _ | .int _ | .uint _ | .float _ | .bool _ | .time _ | .duration _ | .bytes _
  | .json _ | .error _ => simp [firstHidden?] at found
  | .hidden p =>
    obtain rfl : p = o := by simpa [firstHidden?] using found
    refine ⟨[], .here, ?_⟩
    rintro q _ (_ | _)
    exact Or.inl rfl
  | .list items =>
    rw [firstHidden?, firstHiddenItem?_eq_findSome?, List.findSome?_eq_some_iff] at found
    obtain ⟨before, item, after, split, found, clear⟩ := found
    have member : item ∈ items := by simp [split]
    obtain ⟨place, first⟩ := exists_isFirst (sound.item member) found
    subst split
    exact ⟨_, first.item clear after⟩
  | .map entries =>
    rw [firstHidden?, firstHiddenBinding?_eq_findSome?, List.findSome?_eq_some_iff] at found
    obtain ⟨before, ⟨key, value⟩, after, split, found, clear⟩ := found
    have member : (key, value) ∈ entries := by simp [split]
    obtain ⟨place, first⟩ := exists_isFirst (sound.value member) found
    have ascending := sound.ascending entries .here
    subst split
    exact ⟨_, first.entry clear ascending⟩
termination_by sizeOf v
decreasing_by
  · have less := List.sizeOf_lt_of_mem member
    simp only [list.sizeOf_spec]
    omega
  · have less : sizeOf value < sizeOf entries := Json.sizeOf_value_lt member
    simp only [map.sizeOf_spec]
    omega

/-! ### Text and document -/

/-- **Both ways to the JSON form agree.** Writing the text of a value and building its document
succeed for the same values, namely those without an opaque part at any depth, and then the text is
that of the document. For any other value both fail and give the label of the opaque part that
comes first, depth first. What is asked of the value there is what its type promises. -/
theorem json_ways_agree (v : Value) :
    ((∃ text, v.jsonText = .ok text) ↔ ∃ document, v.toJson = .ok document) ∧
    ((∃ document, v.toJson = .ok document) ↔ ∀ o, ¬ Within (.hidden o) v) ∧
    (∀ document, v.toJson = .ok document → v.jsonText = .ok document.write) ∧
    (v.Sound → (∃ o, Within (.hidden o) v) → ∃ o place, IsFirst o place v ∧
      v.jsonText = .error ⟨o.label⟩ ∧ v.toJson = .error ⟨o.label⟩) := by
  have text := jsonText_eq_map_write v
  refine ⟨?_, ?_, ?_, ?_⟩
  · rw [text]
    cases v.toJson <;> simp [Except.map]
  · rw [← firstHidden?_eq_none_iff]
    constructor
    · rintro ⟨document, made⟩
      cases met : firstHidden? v with
      | none => rfl
      | some o =>
        rw [toJson_eq_error met] at made
        cases made
    · exact exists_toJson
  · intro document made
    rw [text, made]
    rfl
  · rintro sound ⟨p, inside⟩
    obtain ⟨o, met⟩ := Option.ne_none_iff_exists'.mp (firstHidden?_ne_none inside)
    obtain ⟨place, first⟩ := exists_isFirst sound met
    refine ⟨o, place, first, ?_, toJson_eq_error met⟩
    rw [text, toJson_eq_error met]
    rfl

/-- Of two opaque parts the one in the list comes first, for the key of the list does. -/
theorem first_of_two_opaque :
    let lock : Opaque := ⟨"lock", 1, default⟩
    let items := [.int 1, .hidden ⟨"conn", 0, default⟩]
    let v : Value := .map [("a", .list items), ("b", .hidden lock)]
    v.Sound ∧ Within (.hidden lock) v ∧ ∃ o place, IsFirst o place v ∧ o.label = "conn" ∧
      v.toJson = .error ⟨"conn"⟩ := by
  intro lock items v
  have sound : v.Sound := by
    have each : ∀ item ∈ items, Sound item := by
      simp only [items, List.forall_mem_cons, List.not_mem_nil, false_imp_iff, implies_true, and_true]
      exact ⟨⟨nofun, nofun⟩, ⟨nofun, nofun⟩⟩
    have ascending : Ascending [("a", Value.list items), ("b", .hidden lock)] := by
      unfold Ascending
      decide
    refine .map ascending ?_
    simp only [List.forall_mem_cons, List.not_mem_nil, false_imp_iff, implies_true, and_true]
    exact ⟨.list each, ⟨nofun, nofun⟩⟩
  have inside : Within (.hidden lock) v :=
    .entry (List.mem_cons_of_mem _ List.mem_cons_self) .here
  obtain ⟨o, place, first, text, document⟩ := (json_ways_agree v).2.2.2 sound ⟨lock, inside⟩
  have met : v.toJson = .error ⟨"conn"⟩ := by rfl
  have label : o.label = "conn" := by simpa [met] using document.symm
  exact ⟨sound, inside, o, place, first, label, met⟩

/-! ### Text form and JSON form -/

/-- The sorts of values that JSON has only strings for. -/
def isTextual : Value → Bool
  | .text _ | .time _ | .duration _ | .bytes _ | .error _ => true
  | _ => false

theorem jsonText_of_isTextual {v : Value} (textual : v.isTextual = true) :
    v.jsonText = .ok (Json.quote v.display) := by
  match v with
  | .text _ | .time _ | .duration _ | .bytes _ | .error _ => rw [jsonText, display]

theorem jsonText_list {items : List Value} (clear : firstHiddenItem? items = none) :
    jsonText (.list items) = .ok (display (.list items)) := by
  obtain ⟨documents, made⟩ := exists_toJsonItems clear
  have inside : jsonItems items = .ok (Json.writeItems documents) := by
    rw [jsonItems_eq_map_write, made]
    rfl
  rw [jsonText, display, inside]
  rfl

theorem jsonText_map {entries : List (String × Value)}
    (clear : firstHiddenBinding? entries = none) :
    jsonText (.map entries) = .ok (display (.map entries)) := by
  obtain ⟨members, made⟩ := exists_toJsonEntries clear
  have inside : jsonEntries entries = .ok (Json.writeMembers members) := by
    rw [jsonEntries_eq_map_write, made]
    rfl
  rw [jsonText, display, inside]
  rfl

/-- **Text form and JSON form carry the same content.** Null and bare doubles apart, a value without
an opaque part has a JSON text. It is the JSON string of the text form if the value is of a textual
sort, and it is the text form itself for any other value, whatever stands inside it. -/
theorem text_and_json_agree (v : Value) (clear : ∀ o, ¬ Within (.hidden o) v) (given : v ≠ .null)
    (notBare : ∀ x, v ≠ .float x) :
    if v.isTextual then v.jsonText = .ok (Json.quote v.display) ∧
      Json.read? (Json.quote v.display) = some (.string v.display)
    else v.jsonText = .ok v.display := by
  have none := firstHidden?_eq_none clear
  split
  next textual =>
    refine ⟨jsonText_of_isTextual textual, ?_⟩
    have read := Json.read?_write (.string v.display)
    rwa [Json.write] at read
  next other =>
    match v with
    | .null => exact absurd rfl given
    | .float x => exact absurd rfl (notBare x)
    | .text _ | .time _ | .duration _ | .bytes _ | .error _ => exact absurd rfl other
    | .int _ | .uint _ | .bool _ | .json _ => rw [jsonText, display]
    | .hidden o => exact absurd .here (clear o)
    | .list items =>
      rw [firstHidden?] at none
      exact jsonText_list none
    | .map entries =>
      rw [firstHidden?] at none
      exact jsonText_map none

/-- A double without a number, and a line feed in a string, inside a list. -/
theorem forms_of_list_with_infinity :
    let v : Value := .list [.float (.infinity false), .null, .text "a\n"]
    (∀ o, ¬ Within (.hidden o) v) ∧ v ≠ .null ∧ (∀ x, v ≠ .float x) ∧
      v.jsonText = .ok v.display ∧ v.display = "[null,null,\x22a\\n\x22]" := by
  intro v
  have clear : ∀ o, ¬ Within (.hidden o) v := firstHidden?_eq_none_iff.mp rfl
  exact ⟨clear, nofun, nofun, text_and_json_agree v clear nofun nofun, by decide +kernel⟩

/-- Outside of a list the same double has a text form of its own. -/
example : (Value.float (.infinity false)).jsonText = .ok "null" ∧
    (Value.float (.infinity false)).display = "inf" := by
  decide +kernel

end Value

end Tapline
