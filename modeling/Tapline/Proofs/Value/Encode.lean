import Tapline.Value.Encode
/-!
# The two ways to the JSON form

Writing a value's JSON text while walking it, and building its document and writing that, give the
same text or the same error. The error is that of the first opaque value, and there is none
exactly when no opaque value is met.

## Main statements

- `Value.jsonText_eq_map_write`: the text is the text of the document.
- `Value.toJson_eq_error`, `Value.exists_toJson`: when there is none.
-/

namespace Tapline.Value

/-! ### Text and document -/

mutual

theorem jsonText_eq_map_write : ∀ v : Value, jsonText v = (toJson v).map Json.write
  | .null | .text _ | .bool _ | .time _ | .duration _ | .bytes _ | .json _ | .error _
  | .hidden _ => by simp [jsonText, toJson, Except.map, Json.write]
  | .int n => by simp [jsonText, toJson, Except.map, Json.write, Json.ofInt, Json.numberText]
  | .uint n => by
    simp only [jsonText, toJson, Except.map, Json.ofNat, Json.write, Json.numberText]
    rfl
  | .float x => by
    by_cases finite : x.isFinite = true
    · simp [jsonText, toJson, Except.map, Json.ofBinary64, finite, Json.write, Json.numberText]
    · simp [jsonText, toJson, Except.map, Json.ofBinary64, finite, Json.write]
  | .list items => by
    rw [jsonText, toJson, jsonItems_eq_map_write items]
    cases toJsonItems items with
    | error e => rfl
    | ok documents => simp [bind, Except.bind, pure, Except.pure, Except.map, Json.write]
  | .map entries => by
    rw [jsonText, toJson, jsonEntries_eq_map_write entries]
    cases toJsonEntries entries with
    | error e => rfl
    | ok members => simp [bind, Except.bind, pure, Except.pure, Except.map, Json.write]

theorem jsonItems_eq_map_write : ∀ items : List Value,
    jsonItems items = (toJsonItems items).map Json.writeItems
  | [] => by simp [jsonItems, toJsonItems, Except.map, Json.writeItems]
  | [item] => by
    rw [jsonItems, toJsonItems, jsonText_eq_map_write item]
    cases toJson item with
    | error e => rfl
    | ok document =>
      simp [toJsonItems, bind, Except.bind, pure, Except.pure, Except.map, Json.writeItems]
  | item :: next :: rest => by
    -- Both ways meet the items from the left, so they stop at the same one.
    rw [jsonItems, toJsonItems, jsonText_eq_map_write item, jsonItems_eq_map_write (next :: rest)]
    · cases toJson item with
      | error e => rfl
      | ok document =>
        rw [toJsonItems]
        cases toJson next with
        | error e => rfl
        | ok second =>
          cases toJsonItems rest with
          | error e => rfl
          | ok documents =>
            simp [bind, Except.bind, pure, Except.pure, Except.map, Json.writeItems]
    · simp

theorem jsonEntries_eq_map_write : ∀ entries : List (String × Value),
    jsonEntries entries = (toJsonEntries entries).map Json.writeMembers
  | [] => by simp [jsonEntries, toJsonEntries, Except.map, Json.writeMembers]
  | [(key, value)] => by
    rw [jsonEntries, toJsonEntries, jsonText_eq_map_write value]
    cases toJson value with
    | error e => rfl
    | ok document =>
      simp [toJsonEntries, bind, Except.bind, pure, Except.pure, Except.map, Json.writeMembers]
  | (key, value) :: next :: rest => by
    rw [jsonEntries, toJsonEntries, jsonText_eq_map_write value,
      jsonEntries_eq_map_write (next :: rest)]
    · cases toJson value with
      | error e => rfl
      | ok document =>
        obtain ⟨other, second⟩ := next
        rw [toJsonEntries]
        cases toJson second with
        | error e => rfl
        | ok document' =>
          cases toJsonEntries rest with
          | error e => rfl
          | ok members =>
            simp [bind, Except.bind, pure, Except.pure, Except.map, Json.writeMembers]
    · simp

end

/-! ### Failure -/

mutual

theorem toJson_eq_error : ∀ {v : Value} {o : Opaque}, firstHidden? v = some o →
    toJson v = .error ⟨o.label⟩
  | .hidden o, _, found => by
    cases found
    simp [toJson]
  | .list items, o, found => by
    rw [firstHidden?] at found
    simp [toJson, toJsonItems_eq_error found, bind, Except.bind]
  | .map entries, o, found => by
    rw [firstHidden?] at found
    simp [toJson, toJsonEntries_eq_error found, bind, Except.bind]

theorem toJsonItems_eq_error : ∀ {items : List Value} {o : Opaque},
    firstHiddenItem? items = some o → toJsonItems items = .error ⟨o.label⟩
  | item :: rest, o, found => by
    rw [firstHiddenItem?] at found
    cases here : firstHidden? item with
    | some p =>
      obtain rfl : p = o := by simpa [here] using found
      simp [toJsonItems, toJson_eq_error here, bind, Except.bind]
    | none =>
      -- The first item has a document, so the opaque value is met in the others.
      have later : firstHiddenItem? rest = some o := by simpa [here] using found
      obtain ⟨document, made⟩ := exists_toJson here
      simp [toJsonItems, made, toJsonItems_eq_error later, bind, Except.bind]

theorem toJsonEntries_eq_error : ∀ {entries : List (String × Value)} {o : Opaque},
    firstHiddenBinding? entries = some o → toJsonEntries entries = .error ⟨o.label⟩
  | (key, value) :: rest, o, found => by
    rw [firstHiddenBinding?] at found
    cases here : firstHidden? value with
    | some p =>
      obtain rfl : p = o := by simpa [here] using found
      simp [toJsonEntries, toJson_eq_error here, bind, Except.bind]
    | none =>
      have later : firstHiddenBinding? rest = some o := by simpa [here] using found
      obtain ⟨document, made⟩ := exists_toJson here
      simp [toJsonEntries, made, toJsonEntries_eq_error later, bind, Except.bind]

theorem exists_toJson : ∀ {v : Value}, firstHidden? v = none → ∃ document, toJson v = .ok document
  | .null, _ | .text _, _ | .int _, _ | .uint _, _ | .float _, _ | .bool _, _ | .time _, _
  | .duration _, _ | .bytes _, _ | .json _, _ | .error _, _ => ⟨_, by rw [toJson]⟩
  | .list items, clear => by
    rw [firstHidden?] at clear
    obtain ⟨documents, made⟩ := exists_toJsonItems clear
    exact ⟨.array documents, by simp [toJson, made, bind, Except.bind, pure, Except.pure]⟩
  | .map entries, clear => by
    rw [firstHidden?] at clear
    obtain ⟨members, made⟩ := exists_toJsonEntries clear
    exact ⟨.object members, by simp [toJson, made, bind, Except.bind, pure, Except.pure]⟩

theorem exists_toJsonItems : ∀ {items : List Value}, firstHiddenItem? items = none →
    ∃ documents, toJsonItems items = .ok documents
  | [], _ => ⟨[], by rw [toJsonItems]⟩
  | item :: rest, clear => by
    rw [firstHiddenItem?, Option.or_eq_none_iff] at clear
    obtain ⟨document, made⟩ := exists_toJson clear.1
    obtain ⟨documents, others⟩ := exists_toJsonItems clear.2
    exact ⟨document :: documents,
      by simp [toJsonItems, made, others, bind, Except.bind, pure, Except.pure]⟩

theorem exists_toJsonEntries : ∀ {entries : List (String × Value)},
    firstHiddenBinding? entries = none → ∃ members, toJsonEntries entries = .ok members
  | [], _ => ⟨[], by rw [toJsonEntries]⟩
  | (key, value) :: rest, clear => by
    rw [firstHiddenBinding?, Option.or_eq_none_iff] at clear
    obtain ⟨document, made⟩ := exists_toJson clear.1
    obtain ⟨members, others⟩ := exists_toJsonEntries clear.2
    exact ⟨(key, document) :: members,
      by simp [toJsonEntries, made, others, bind, Except.bind, pure, Except.pure]⟩

end

end Tapline.Value
