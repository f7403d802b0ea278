import Tapline.Proofs.Template.Arguments
import Tapline.Proofs.Value.Equality
/-!
# Values that look alike

Two values may be told apart by nothing that a program reads or prints: every view of them answers
alike, and they have one text and one document. Containers that hold one of them look alike in turn,
and so do bags. A line over the standard fields is made of views, texts and documents only, so it
does not tell such bags apart.

## Main results

- `Value.alike_list`, `Value.alike_map`: containers of values that look alike.
- `Template.line_of_alike`: lines of bags that look alike.
-/

namespace Tapline

namespace Value

/-- Two values that answer every view alike and have one text and one document. -/
structure Alike (v w : Value) : Prop where
  isNull : v.isNull = w.isNull
  text : v.asText? = w.asText?
  int : v.asInt? = w.asInt?
  uint : v.asUInt? = w.asUInt?
  float : v.asFloat? = w.asFloat?
  bool : v.asBool? = w.asBool?
  time : v.asTime? = w.asTime?
  duration : v.asDuration? = w.asDuration?
  error : v.asError? = w.asError?
  document : v.toJson = w.toJson
  display : v.display = w.display

/-- Entries that bind the same keys, one by one, to values that look alike. -/
abbrev EntriesAlike (entries others : List (String × Value)) : Prop :=
  List.Forall₂ (fun a b => a.1 = b.1 ∧ a.2.Alike b.2) entries others

@[refl] theorem Alike.refl (v : Value) : v.Alike v :=
  ⟨rfl, rfl, rfl, rfl, rfl, rfl, rfl, rfl, rfl, rfl, rfl⟩

theorem Alike.jsonText {v w : Value} (alike : v.Alike w) : v.jsonText = w.jsonText := by
  rw [jsonText_eq_map_write, jsonText_eq_map_write, alike.document]

theorem EntriesAlike.refl (entries : List (String × Value)) : EntriesAlike entries entries :=
  List.forall₂_same.mpr fun entry _ => ⟨rfl, .refl entry.2⟩

/-! ### Containers -/

theorem alike_list {items others : List Value} (each : List.Forall₂ Alike items others) :
    Alike (.list items) (.list others) := by
  have documents := toJsonItems_congr (each.imp fun _ _ alike => alike.document)
  have texts := map_eq_map_of_forall₂ (each.imp fun _ _ alike => alike.display)
  refine ⟨rfl, rfl, rfl, rfl, rfl, rfl, rfl, rfl, rfl, ?_, ?_⟩
  · rw [toJson, toJson, documents]
  · rw [display_list, display_list, documents, texts]

theorem EntriesAlike.documents {entries others : List (String × Value)}
    (each : EntriesAlike entries others) : toJsonEntries entries = toJsonEntries others :=
  toJsonEntries_congr (each.imp fun _ _ both => ⟨both.1, both.2.document⟩)

theorem EntriesAlike.texts {entries others : List (String × Value)}
    (each : EntriesAlike entries others) :
    (entries.map fun entry => entry.1 ++ ":" ++ entry.2.display) =
      others.map fun entry => entry.1 ++ ":" ++ entry.2.display :=
  map_eq_map_of_forall₂ (each.imp fun _ _ both => by rw [both.1, both.2.display])

theorem alike_map {entries others : List (String × Value)} (each : EntriesAlike entries others) :
    Alike (.map entries) (.map others) := by
  refine ⟨rfl, rfl, rfl, rfl, rfl, rfl, rfl, rfl, rfl, ?_, ?_⟩
  · rw [toJson, toJson, each.documents]
  · rw [display_map, display_map, each.documents, each.texts]

theorem looseMap_of_alike {entries others : List (String × Value)}
    (each : EntriesAlike entries others) : looseMap entries = looseMap others := by
  rw [looseMap, looseMap, looseEntries_eq_intercalate, looseEntries_eq_intercalate, each.texts]

end Value

/-! ### Bags -/

/-- Two bags that bind the same names to values that look alike. -/
def Bag.Alike (bag bag' : Bag) : Prop := Value.EntriesAlike bag.entries bag'.entries

namespace Bag.Alike

theorem refl (bag : Bag) : Bag.Alike bag bag := Value.EntriesAlike.refl bag.entries

variable {bag bag' : Bag}

theorem insert (alike : Bag.Alike bag bag') (name : String) {v w : Value} (same : v.Alike w) :
    Bag.Alike (bag.insert name v) (bag'.insert name w) := by
  obtain ⟨entries, ascending⟩ := bag
  obtain ⟨others, ascending'⟩ := bag'
  change Value.EntriesAlike (insertEntry name v entries) (insertEntry name w others)
  change Value.EntriesAlike entries others at alike
  clear ascending ascending'
  induction alike with
  | nil => exact .cons ⟨rfl, same⟩ .nil
  | @cons entry other rest rest' head tail ih =>
    rw [insertEntry, insertEntry, head.1]
    split
    · exact .cons ⟨rfl, same⟩ (.cons head tail)
    · split
      · exact .cons ⟨rfl, same⟩ tail
      · exact .cons head ih

theorem ofList {entries others : List (String × Value)} (each : Value.EntriesAlike entries others) :
    Bag.Alike (KeyMap.ofList entries) (KeyMap.ofList others) := by
  have grow : ∀ bag bag' : Bag, Bag.Alike bag bag' →
      Bag.Alike (bag.insertMany entries) (bag'.insertMany others) := by
    induction each with
    | nil => exact fun _ _ alike => alike
    | @cons entry other _ _ head _ ih =>
      obtain ⟨name, v⟩ := entry
      obtain ⟨name', w⟩ := other
      obtain ⟨rfl, same⟩ := head
      exact fun bag bag' alike => ih _ _ (alike.insert name same)
  exact grow _ _ .nil

/-- What a name is bound to looks alike. -/
theorem get? (alike : Bag.Alike bag bag') (name : String) :
    Option.Rel Value.Alike (bag.get? name) (bag'.get? name) := by
  obtain ⟨entries, ascending⟩ := bag
  obtain ⟨others, ascending'⟩ := bag'
  change Option.Rel Value.Alike (lookupEntry name entries) (lookupEntry name others)
  change Value.EntriesAlike entries others at alike
  clear ascending ascending'
  induction alike with
  | nil => exact .none
  | cons head _ ih =>
    rw [lookupEntry, lookupEntry, head.1]
    split
    · exact .some head.2
    · exact ih

/-- A view through a name answers alike. -/
theorem view {α : Type} (alike : Bag.Alike bag bag') (name : String) {view : Value → Option α}
    (answers : ∀ {v w : Value}, v.Alike w → view v = view w) :
    (bag.get? name).bind view = (bag'.get? name).bind view := by
  have found := alike.get? name
  generalize bag.get? name = v at found
  generalize bag'.get? name = w at found
  cases found with
  | none => rfl
  | some same => exact answers same

theorem text (alike : Bag.Alike bag bag') (name : String) : bag.text name = bag'.text name := by
  rw [Bag.text, Bag.text, alike.view name (·.text)]

theorem int (alike : Bag.Alike bag bag') (name : String) : bag.int name = bag'.int name := by
  rw [Bag.int, Bag.int, alike.view name (·.int)]

theorem uint (alike : Bag.Alike bag bag') (name : String) : bag.uint name = bag'.uint name := by
  rw [Bag.uint, Bag.uint, alike.view name (·.uint)]

theorem float (alike : Bag.Alike bag bag') (name : String) : bag.float name = bag'.float name := by
  rw [Bag.float, Bag.float, alike.view name (·.float)]

theorem error? (alike : Bag.Alike bag bag') (name : String) :
    bag.error? name = bag'.error? name := by
  have read (bag : Bag) : bag.error? name = (bag.get? name).bind fun v =>
      v.asError?.or (v.asText?.filter fun s => !s.isEmpty) := by
    unfold Bag.error?
    cases bag.get? name with
    | none => rfl
    | some v => cases v with
      | text s =>
        simp only [Value.asError?, Value.asText?, Option.bind_some, Option.none_or, Option.filter]
        by_cases empty : s = "" <;> simp [empty]
      | _ => rfl
  rw [read, read]
  exact alike.view name fun same => by rw [same.error, same.text]

end Bag.Alike

/-! ### Lines -/

/-- Two fields of one key, both shown or both skipped, whose values look alike. -/
structure Field.Alike (field other : Field) : Prop where
  key : field.key = other.key
  skip : field.skip = other.skip
  value : field.value.Alike other.value

namespace Field

@[refl] theorem Alike.refl (field : Field) : field.Alike field := ⟨rfl, rfl, .refl field.value⟩

theorem Alike.text {field other : Field} (alike : field.Alike other) : field.text = other.text := by
  rw [Field.text, Field.text, alike.skip, alike.value.display]

theorem members_of_alike {fields others : List Field} (each : List.Forall₂ Alike fields others) :
    Bag.Alike (members fields) (members others) := by
  apply Bag.Alike.ofList
  induction each with
  | nil => exact .nil
  | @cons field other _ _ head _ ih =>
    -- What is skipped on one side is skipped on the other.
    cases skip : field.skip with
    | true =>
      have skip' : other.skip = true := head.skip.symm.trans skip
      rwa [List.filter_cons_of_neg (by simp [skip]), List.filter_cons_of_neg (by simp [skip'])]
    | false =>
      have skip' : other.skip = false := head.skip.symm.trans skip
      rw [List.filter_cons_of_pos (by simp [skip]), List.filter_cons_of_pos (by simp [skip'])]
      exact .cons ⟨head.key, head.value⟩ ih

theorem groupText_of_alike {fields others : List Field} (each : List.Forall₂ Alike fields others) :
    groupText fields = groupText others := by
  have shown : Value.EntriesAlike (members fields).entries (members others).entries :=
    members_of_alike each
  simp only [groupText, (Value.alike_map shown).jsonText, Value.looseMap_of_alike shown]

end Field

section Lines

variable {bag bag' : Bag}

/-- A function that gives fields that look alike for bags that do, and reports nothing. -/
def FieldFunction.Respects (f : FieldFunction) : Prop :=
  ∀ bag bag' : Bag, Bag.Alike bag bag' → ∃ field other, f bag = .done field ∧
    f bag' = .done other ∧ field.Alike other

theorem FieldFunction.respects_ofPure {f : Bag → Field}
    (same : ∀ bag bag' : Bag, Bag.Alike bag bag' → (f bag).Alike (f bag')) :
    (ofPure f).Respects :=
  fun bag bag' alike => ⟨_, _, rfl, rfl, same bag bag' alike⟩

theorem FieldFunction.respects_value (name key : String) : (value name key).Respects := by
  apply respects_ofPure
  intro bag bag' alike
  have found := alike.get? name
  generalize bag.get? name = v at found
  generalize bag'.get? name = w at found
  cases found with
  | none => rfl
  | some same =>
    simp only [same.isNull]
    split
    · rfl
    · exact ⟨rfl, rfl, same⟩

/-- A standard field shows what a view answers, or the value itself. -/
theorem StandardShape.respects (shape : StandardShape) (name : String) :
    (shape.function name).Respects := by
  cases shape with
  | value => exact FieldFunction.respects_value name name
  | text | optionalText =>
    apply FieldFunction.respects_ofPure
    intro bag bag' alike
    rw [alike.text]
  | time =>
    apply FieldFunction.respects_ofPure
    intro bag bag' alike
    rw [Bag.time?, Bag.time?, alike.view name (·.time)]
  | duration =>
    apply FieldFunction.respects_ofPure
    intro bag bag' alike
    rw [Bag.duration?, Bag.duration?, alike.view name (·.duration)]
  | error =>
    apply FieldFunction.respects_ofPure
    intro bag bag' alike
    rw [alike.error?]

theorem groupFields_of_respects {functions : List FieldFunction}
    (respect : ∀ f ∈ functions, f.Respects) (alike : Bag.Alike bag bag') :
    List.Forall₂ Field.Alike (groupFields functions bag).value (groupFields functions bag').value ∧
      (groupFields functions bag).notices = (groupFields functions bag').notices := by
  induction functions with
  | nil => exact ⟨.nil, rfl⟩
  | cons f rest ih =>
    obtain ⟨field, other, made, made', same⟩ := respect f List.mem_cons_self bag bag' alike
    obtain ⟨fields, notices⟩ := ih fun g member => respect g (List.mem_cons_of_mem f member)
    simp only [groupFields, made, made', Probe.field, Noted.pure, notices, and_true]
    exact .cons same fields

theorem Piece.text_bind_of_alike (piece : Piece) (alike : Bag.Alike bag bag') :
    (piece.bind .standard).text bag = (piece.bind .standard).text bag' := by
  have respects : ∀ {key f}, Registry.standard.get? key = some f → f.Respects := by
    intro key f found
    obtain ⟨field, -, -, rfl⟩ := Registry.exists_field_of_standard found
    exact field.shape.respects field.name
  cases piece with
  | literal text => rfl
  | call key =>
    rw [Piece.bind]
    cases found : Registry.standard.get? key with
    | none => rfl
    | some f =>
      obtain ⟨field, other, made, made', same⟩ := respects found bag bag' alike
      simp only [Segment.text, made, made', Probe.field, Noted.pure, same.text]
  | group body =>
    have respect : ∀ f ∈ body.filterMap Registry.standard.get?, f.Respects := by
      intro f member
      obtain ⟨key, -, found⟩ := List.mem_filterMap.mp member
      exact respects found
    obtain ⟨fields, notices⟩ := groupFields_of_respects respect alike
    simp only [Piece.bind, Segment.text, Field.groupText_of_alike fields, notices]

/-- A line over the standard fields, with its notices, does not tell bags apart that look alike. -/
theorem Template.line_of_alike {source : String} {t : Template}
    (compiled : compile source .standard = .ok t) (alike : Bag.Alike bag bag') :
    t.line bag = t.line bag' := by
  obtain rfl : ⟨source, (pieces .standard source).map (Piece.bind .standard)⟩ = t := by
    simpa [compile, Registry.standard_free] using compiled
  have same : bodyText ((pieces .standard source).map (Piece.bind .standard)) bag =
      bodyText ((pieces .standard source).map (Piece.bind .standard)) bag' := by
    apply bodyText_congr
    intro segment member
    obtain ⟨piece, -, rfl⟩ := List.mem_map.mp member
    exact piece.text_bind_of_alike alike
  simp only [line, same]

end Lines

end Tapline
