import Tapline.Proofs.Template.Arguments
import Tapline.Proofs.Template.Group
import Tapline.Proofs.Value.Forms
/-!
# The record of a file

The template for files is one group of all the standard fields. They differ in what they leave out:
some file every argument that is not null, others only a text that is not empty, a point in time, a
duration or an error, and the identifier is filed always. No two of them have one name, so a record
holds every argument that is to be filed, with the JSON form that the argument has by itself.

## Main result

`file_record_complete`, for every bag.

## Proof strategy

What a record holds is said for each name by itself (`Bag.filed?`). One standard field at a time, a
result that is not skipped looks like the argument that is filed (`StandardField.result_files`).
The names are distinct, so the group binds each of them to its own result (`get?_record`), and the
document of the group is read off its bindings.
-/

namespace Tapline

/-! ### What is filed -/

/-- The argument that a shape lets through. -/
def StandardShape.filed? (shape : StandardShape) (bag : Bag) (name : String) : Option Value :=
  match shape with
  | .text => some (.text (bag.text name))
  | .optionalText => (bag.get? name).filter fun v => v.asText?.any (· ≠ "")
  | .value => (bag.get? name).filter fun v => !v.isNull
  | .time => (bag.get? name).filter fun v => v.asTime?.isSome
  | .duration => (bag.get? name).filter fun v => v.asDuration?.isSome
  | .error => (bag.get? name).filter fun _ => (bag.error? name).isSome

namespace Bag

/-- The arguments that are filed as texts. -/
def textNames : List String :=
  ["web_url", "web_method", "source", "func_name", "command_name", "collection_name", "db_name",
    "table", "operation", "sql", "url", "method"]

/-- The arguments that are filed whatever they are. -/
def rawNames : List String :=
  ["key", "value", "status_code", "request_body", "response_body", "extra"]

/-- The argument that a record holds under a name. -/
def filed? (bag : Bag) (name : String) : Option Value :=
  if name = "uuid" then StandardShape.text.filed? bag name
  else if name = "start_time" ∨ name = "end_time" then StandardShape.time.filed? bag name
  else if name = "duration" then StandardShape.duration.filed? bag name
  else if name = "error" then StandardShape.error.filed? bag name
  else if name ∈ textNames then StandardShape.optionalText.filed? bag name
  else if name ∈ rawNames then StandardShape.value.filed? bag name
  else none

end Bag

/-- How a value looks in a group, in its two forms. -/
def Value.forms (v : Value) : Except EncodeError Json × String := (v.toJson, v.display)

/-! ### One field -/

/-- How a field files an argument: it is skipped if there is none, and looks like it otherwise. -/
def Field.Files (result : Field) : Option Value → Prop
  | none => result.skip = true
  | some v => result.skip = false ∧ result.value.forms = v.forms

namespace Field

@[simp] theorem key_skipped (key : String) : (skipped key).key = key := rfl

@[simp] theorem skip_skipped (key : String) : (skipped key).skip = true := rfl

@[simp] theorem key_shown (key : String) (v : Value) : (shown key v).key = key := rfl

@[simp] theorem value_shown (key : String) (v : Value) : (shown key v).value = v := rfl

@[simp] theorem skip_shown (key : String) (v : Value) : (shown key v).skip = false := rfl

@[simp] theorem files_none (result : Field) : result.Files none ↔ result.skip = true := Iff.rfl

@[simp] theorem files_some (result : Field) (v : Value) :
    result.Files (some v) ↔ result.skip = false ∧ result.value.forms = v.forms := Iff.rfl

end Field

namespace FieldFunction

theorem field_ofPure (f : Bag → Field) (bag : Bag) : (Probe.field (ofPure f bag)).value = f bag :=
  rfl

variable (bag : Bag) (name : String)

theorem files_optionalText : (Probe.field (optionalText name name bag)).value.Files
    (StandardShape.optionalText.filed? bag name) := by
  rw [optionalText, field_ofPure, StandardShape.filed?, Bag.text]
  cases bag.get? name with
  | none => simp
  | some v =>
    cases v with
    | text s => by_cases blank : s = "" <;> simp [Value.asText?, Option.filter_some, blank]
    | _ => simp [Value.asText?, Option.filter_some]

theorem files_value : (Probe.field (value name name bag)).value.Files
    (StandardShape.value.filed? bag name) := by
  rw [value, field_ofPure, StandardShape.filed?]
  cases bag.get? name with
  | none => simp
  | some v => cases given : v.isNull <;> simp [Option.filter_some, given]

theorem files_plainTime : (Probe.field (plainTime name name bag)).value.Files
    (StandardShape.time.filed? bag name) := by
  rw [plainTime, field_ofPure, StandardShape.filed?, Bag.time?]
  cases bag.get? name with
  | none => simp
  | some v =>
    cases v with
    | time t =>
      -- The field gives the text of the time, and JSON has that text for the time itself.
      simp [Value.asTime?, Option.filter_some, Value.forms, Value.toJson, Value.display]
    | _ => simp [Value.asTime?, Option.filter_some]

theorem files_duration : (Probe.field (duration name name bag)).value.Files
    (StandardShape.duration.filed? bag name) := by
  rw [duration, field_ofPure, StandardShape.filed?, Bag.duration?]
  cases bag.get? name with
  | none => simp
  | some v => cases v <;> simp [Value.asDuration?, Option.filter_some]

theorem files_error : (Probe.field (error name name bag)).value.Files
    (StandardShape.error.filed? bag name) := by
  rw [error, field_ofPure, StandardShape.filed?, Bag.error?]
  cases bag.get? name with
  | none => simp
  | some v =>
    cases v with
    | text s => by_cases blank : s = "" <;> simp [Option.filter_some, blank]
    | error message =>
      simp [Option.filter_some, Value.forms, Value.toJson, Value.display]
    | _ => simp [Option.filter_some]

end FieldFunction

namespace StandardField

/-- What a standard field gives for a bag. -/
def result (field : StandardField) (bag : Bag) : Field :=
  (Probe.field (field.shape.function field.name bag)).value

variable (field : StandardField) (bag : Bag)

theorem key_result : (field.result bag).key = field.name := by
  obtain ⟨key, name, shape⟩ := field
  cases shape with
  | text => rfl
  | optionalText => rfl
  | value =>
    simp only [result, StandardShape.function, FieldFunction.value, FieldFunction.field_ofPure]
    split
    · split <;> simp
    · simp
  | time =>
    simp only [result, StandardShape.function, FieldFunction.plainTime, FieldFunction.field_ofPure]
    split <;> simp
  | duration =>
    simp only [result, StandardShape.function, FieldFunction.duration, FieldFunction.field_ofPure]
    split <;> simp
  | error =>
    simp only [result, StandardShape.function, FieldFunction.error, FieldFunction.field_ofPure]
    split <;> simp

theorem result_files : (field.result bag).Files (field.shape.filed? bag field.name) := by
  obtain ⟨key, name, shape⟩ := field
  cases shape with
  | text => exact ⟨rfl, rfl⟩
  | optionalText => exact FieldFunction.files_optionalText bag name
  | value => exact FieldFunction.files_value bag name
  | time => exact FieldFunction.files_plainTime bag name
  | duration => exact FieldFunction.files_duration bag name
  | error => exact FieldFunction.files_error bag name

end StandardField

/-! ### The table -/

/-- Each standard field is called by its own character. -/
theorem Registry.get?_standard {field : StandardField} (member : field ∈ standardFields) :
    Registry.standard.get? field.key = some (field.shape.function field.name) := by
  have known : ∀ field ∈ standardFields, Registry.standard.contains field.key = true := by
    decide +kernel
  have distinct : ∀ field ∈ standardFields, ∀ other ∈ standardFields, other.key = field.key →
      other = field := by decide +kernel
  obtain ⟨f, found⟩ := Option.isSome_iff_exists.mp (known field member)
  obtain ⟨other, member', same, rfl⟩ := Registry.exists_field_of_standard found
  rw [found, distinct field member other member' same]

/-- The template for files is a group of all standard fields. -/
theorem pieces_filePattern :
    Template.pieces .standard filePattern = [.group (standardFields.map StandardField.key)] := by
  decide +kernel

theorem functions_filePattern : (standardFields.map StandardField.key).filterMap
    Registry.standard.get? =
      standardFields.map fun field => field.shape.function field.name := by
  rw [List.filterMap_map, ← List.filterMap_eq_map]
  apply List.filterMap_congr
  intro field member
  exact Registry.get?_standard member

namespace Bag

variable (bag : Bag)

/-- Each argument is filed in the way of the standard field of its name. -/
theorem filed?_of_field {field : StandardField} (member : field ∈ standardFields) :
    bag.filed? field.name = field.shape.filed? bag field.name := by
  -- Name by name, the branch that is taken is that of the shape in the table.
  have each : ∀ field ∈ standardFields,
      bag.filed? field.name = field.shape.filed? bag field.name := by
    simp only [standardFields, List.forall_mem_cons]
    and_intros
    all_goals first | rfl | nofun
  exact each field member

theorem exists_field_of_filed? {name : String} {v : Value} (filed : bag.filed? name = some v) :
    ∃ field ∈ standardFields, field.name = name := by
  have texts : ∀ name ∈ textNames, ∃ field ∈ standardFields, field.name = name := by decide +kernel
  have raws : ∀ name ∈ rawNames, ∃ field ∈ standardFields, field.name = name := by decide +kernel
  have others : ∀ name ∈ ["uuid", "start_time", "end_time", "duration", "error"],
      ∃ field ∈ standardFields, field.name = name := by decide +kernel
  unfold filed? at filed
  split_ifs at filed with uuid times duration error text raw
  · exact others name (by simp [uuid])
  · exact others name (by rcases times with rfl | rfl <;> simp)
  · exact others name (by simp [duration])
  · exact others name (by simp [error])
  · exact texts name text
  · exact raws name raw

end Bag

/-! ### The group -/

/-- The members of the record of a bag. -/
def Bag.record (bag : Bag) : KeyMap Value :=
  Field.members (standardFields.map fun field => field.result bag)

/-- A record binds each name to a value that looks like the argument that is filed. -/
theorem Bag.get?_record (bag : Bag) (name : String) :
    (bag.record.get? name).map Value.forms = (bag.filed? name).map Value.forms := by
  have named : (standardFields.map fun field => field.result bag).filter
      (fun result => !result.skip && result.key == name) =
        ((standardFields.filter fun field => field.name == name).filter
          fun field => !(field.result bag).skip).map fun field => field.result bag := by
    simp only [List.filter_map, List.filter_filter, Function.comp_def,
      StandardField.key_result]
  rw [record, Field.get?_members, named]
  by_cases known : ∃ field ∈ standardFields, field.name = name
  · obtain ⟨field, member, rfl⟩ := known
    -- No other field has the name of this one.
    have alone : ∀ field ∈ standardFields,
        (standardFields.filter fun other => other.name == field.name) = [field] := by
      decide +kernel
    rw [alone field member, bag.filed?_of_field member]
    have files := field.result_files bag
    cases filed : field.shape.filed? bag field.name with
    | none =>
      rw [filed, Field.files_none] at files
      simp [files]
    | some v =>
      rw [filed, Field.files_some] at files
      simp [files]
  · have none : (standardFields.filter fun field => field.name == name) = [] := by
      rw [List.filter_eq_nil_iff]
      exact fun field member same => known ⟨field, member, eq_of_beq same⟩
    have unfiled : bag.filed? name = Option.none := by
      by_contra filed
      obtain ⟨v, filed⟩ := Option.ne_none_iff_exists'.mp filed
      exact known (bag.exists_field_of_filed? filed)
    rw [none, unfiled]
    rfl

theorem KeyMap.get?_of_mem {α : Type u} {map : KeyMap α} {entry : String × α}
    (member : entry ∈ map.entries) : map.get? entry.1 = some entry.2 := by
  obtain ⟨entries, ascending⟩ := map
  induction entries with
  | nil => cases member
  | cons first rest ih =>
    obtain ⟨above, later⟩ := List.pairwise_cons.mp ascending
    rcases List.mem_cons.mp member with rfl | inside
    · exact if_pos rfl
    · have differ : first.1 ≠ entry.1 := fun same =>
        String.lt_irrefl _ (same ▸ above entry inside)
      exact (if_neg differ).trans (ih later inside)

theorem KeyMap.mem_of_get? {α : Type u} {map : KeyMap α} {key : String} {value : α}
    (found : map.get? key = some value) : (key, value) ∈ map.entries := by
  obtain ⟨entries, ascending⟩ := map
  induction entries with
  | nil => cases found
  | cons first rest ih =>
    rw [get?, lookupEntry] at found
    split at found
    next same =>
      obtain rfl := Option.some.inj found
      exact same ▸ List.mem_cons_self
    next => exact List.mem_cons_of_mem _ (ih (List.pairwise_cons.mp ascending).2 found)

/-- A document binds the keys of its entries to their documents. -/
theorem lookupEntry_toJsonEntries {entries : List (String × Value)}
    {members : List (String × Json)} (made : Value.toJsonEntries entries = .ok members)
    (name : String) :
    (lookupEntry name members).map Except.ok = (lookupEntry name entries).map Value.toJson := by
  have related := Value.toJsonEntries_eq_ok_iff.mp made
  clear made
  induction related with
  | nil => rfl
  | @cons entry member _ _ both _ ih =>
    obtain ⟨same, document⟩ := both
    rw [lookupEntry, lookupEntry, ← same]
    split
    · simp only [Option.map_some, document]
    · exact ih

/-! ### Opaque values -/

theorem Value.toJson_of_isTextual {v : Value} (textual : v.isTextual = true) :
    v.toJson = .ok (.string v.display) := by
  cases v with
  | text | time | duration | bytes | error => simp [toJson, display]
  | null | int | uint | float | bool | list | map | json | hidden => cases textual

theorem Value.exists_toJson_iff {v : Value} :
    (∃ document, v.toJson = .ok document) ↔ firstHidden? v = none := by
  refine ⟨fun ⟨document, made⟩ => ?_, exists_toJson⟩
  by_contra met
  obtain ⟨o, met⟩ := Option.ne_none_iff_exists'.mp met
  rw [toJson_eq_error met] at made
  cases made

theorem StandardShape.isTextual_of_filed? {shape : StandardShape} (checked : shape ≠ .value)
    {bag : Bag} {name : String} {v : Value} (filed : shape.filed? bag name = some v) :
    v.isTextual = true := by
  cases shape with
  | value => exact absurd rfl checked
  | text =>
    obtain rfl := Option.some.inj filed
    rfl
  | optionalText | time | duration =>
    obtain ⟨-, sort⟩ := Option.filter_eq_some_iff.mp filed
    cases v <;> first | rfl | cases sort
  | error =>
    obtain ⟨found, sort⟩ := Option.filter_eq_some_iff.mp filed
    rw [Bag.error?, found] at sort
    cases v <;> first | rfl | cases sort

namespace Bag

variable (bag : Bag)

/-- What is filed is a raw argument as it is, or something that JSON has strings for. -/
theorem filed?_cases {name : String} {v : Value} (filed : bag.filed? name = some v) :
    (name ∈ rawNames ∧ bag.get? name = some v) ∨ v.isTextual = true := by
  unfold filed? at filed
  split_ifs at filed with uuid times duration error text raw
  · exact .inr (StandardShape.isTextual_of_filed? (by decide) filed)
  · exact .inr (StandardShape.isTextual_of_filed? (by decide) filed)
  · exact .inr (StandardShape.isTextual_of_filed? (by decide) filed)
  · exact .inr (StandardShape.isTextual_of_filed? (by decide) filed)
  · exact .inr (StandardShape.isTextual_of_filed? (by decide) filed)
  · exact .inl ⟨raw, (Option.filter_eq_some_iff.mp filed).1⟩

theorem filed?_of_raw {name : String} (raw : name ∈ rawNames) :
    bag.filed? name = StandardShape.value.filed? bag name := by
  have each : ∀ name ∈ rawNames, bag.filed? name = StandardShape.value.filed? bag name := by
    simp only [rawNames, List.forall_mem_cons]
    and_intros
    all_goals first | rfl | nofun
  exact each name raw

theorem exists_filed_of_mem {entry : String × Value} (member : entry ∈ bag.record.entries) :
    ∃ v, bag.filed? entry.1 = some v ∧ v.forms = entry.2.forms := by
  have forms := bag.get?_record entry.1
  rw [KeyMap.get?_of_mem member] at forms
  exact Option.map_eq_some_iff.mp forms.symm

/-- A record has a document unless one of the raw arguments holds an opaque value. -/
theorem clear_record_iff : Value.firstHiddenBinding? bag.record.entries = none ↔
    ∀ name ∈ rawNames, ∀ v, bag.get? name = some v → ∀ o, ¬ Value.Within (.hidden o) v := by
  rw [Value.firstHiddenBinding?_eq_none_iff]
  constructor
  · intro clear name raw v found o inside
    have given : v.isNull = false := by
      cases inside <;> rfl
    have filed : bag.filed? name = some v := by
      rw [bag.filed?_of_raw raw, StandardShape.filed?, found]
      exact Option.filter_some_pos (by rw [given]; rfl)
    -- The value in the record has a document, so the argument has one as well.
    have forms := bag.get?_record name
    rw [filed] at forms
    obtain ⟨w, shown, looks⟩ := Option.map_eq_some_iff.mp forms
    have made := Value.exists_toJson_iff.mpr (clear _ (KeyMap.mem_of_get? shown))
    rw [show w.toJson = v.toJson from congrArg Prod.fst looks] at made
    exact Value.firstHidden?_ne_none inside (Value.exists_toJson_iff.mp made)
  · intro clear entry member
    obtain ⟨v, filed, looks⟩ := bag.exists_filed_of_mem member
    rw [← Value.exists_toJson_iff, ← show v.toJson = entry.2.toJson from congrArg Prod.fst looks]
    rcases bag.filed?_cases filed with ⟨raw, found⟩ | textual
    · exact Value.exists_toJson (Value.firstHidden?_eq_none (clear entry.1 raw v found))
    · exact ⟨_, Value.toJson_of_isTextual textual⟩

end Bag

/-! ### The main result -/

/-- The line of a record is the text of its group. -/
theorem exists_file_template :
    ∃ t, Template.compile filePattern .standard = .ok t ∧ ∀ bag : Bag,
      (t.line bag).value =
        (Field.groupText (standardFields.map fun field => field.result bag)).value ++ "\n" := by
  let t : Template :=
    ⟨filePattern, [.group (standardFields.map fun field => field.shape.function field.name)]⟩
  have compiled : Template.compile filePattern .standard = .ok t := by
    rw [Template.compile, if_neg (by simp [Registry.standard_free]), pieces_filePattern,
      List.map_singleton, Piece.bind, functions_filePattern]
  refine ⟨t, compiled, fun bag => ?_⟩
  have results : (groupFields (standardFields.map fun field => field.shape.function field.name)
      bag).value = standardFields.map fun field => field.result bag := by
    rw [groupFields_value, List.map_map]
    rfl
  simp only [t, Template.line, bodyText, Segment.text, results, Noted.pure, String.append_empty]

/-- **The record of a file is complete.** The template for files compiles with the standard
registry. Without opaque parts in the raw arguments its line for a bag is one JSON object, which
binds a name to the JSON form of its argument if the argument is filed, and no other names; floats
apart, reading the object gives it back. With an opaque part in one of them the line is the loose
form over the same names, with the texts of the same arguments. -/
theorem file_record_complete :
    ∃ t, Template.compile filePattern .standard = .ok t ∧ ∀ bag : Bag,
      ((∀ name ∈ Bag.rawNames, ∀ v, bag.get? name = some v → ∀ o, ¬ Value.Within (.hidden o) v) →
        ∃ members : KeyMap Json,
          (t.line bag).value = Json.write (.object members.entries) ++ "\n" ∧
          (∀ name, (members.get? name).map Except.ok = (bag.filed? name).map Value.toJson) ∧
          ((∀ name ∈ Bag.rawNames, ∀ v, bag.get? name = some v → v.Sound ∧ v.NoFloat) →
            Json.read? (Json.write (.object members.entries)) = some (.object members.entries))) ∧
      ((∃ name ∈ Bag.rawNames, ∃ v o, bag.get? name = some v ∧ Value.Within (.hidden o) v) →
        ∃ shown : KeyMap Value,
          (∀ name, (shown.get? name).map Value.forms = (bag.filed? name).map Value.forms) ∧
          (t.line bag).value = Text.inline ("\x7b" ++ " ".intercalate
            (shown.entries.map fun entry => entry.1 ++ ":" ++ entry.2.display) ++ "\x7d") ++
              "\n") := by
  obtain ⟨t, compiled, lines⟩ := exists_file_template
  refine ⟨t, compiled, fun bag => ⟨fun clear => ?_, fun hidden => ?_⟩⟩
  · obtain ⟨entries, made⟩ := Value.exists_toJsonEntries (bag.clear_record_iff.mpr clear)
    have related := Value.toJsonEntries_eq_ok_iff.mp made
    have ascending : Ascending entries :=
      Value.ascending_of_same_keys (related.imp fun _ _ both => both.1) bag.record.ascending
    refine ⟨⟨entries, ascending⟩, ?_, fun name => ?_, fun promised => ?_⟩
    · rw [lines, Field.groupText_of_document made]
    · refine (lookupEntry_toJsonEntries made name).trans ?_
      have forms := congrArg (Option.map Prod.fst) (bag.get?_record name)
      rw [Option.map_map, Option.map_map] at forms
      exact forms
    · apply Json.read?_write
      refine .object ascending fun member taken => ?_
      obtain ⟨entry, given, -, document⟩ := Value.exists_of_forall₂ related taken
      obtain ⟨v, filed, looks⟩ := bag.exists_filed_of_mem given
      have same : v.toJson = .ok member.2 := (congrArg Prod.fst looks).trans document
      rcases bag.filed?_cases filed with ⟨raw, found⟩ | textual
      · obtain ⟨sound, noFloat⟩ := promised entry.1 raw v found
        exact Value.toJson_plain sound noFloat same
      · rw [Value.toJson_of_isTextual textual] at same
        rw [← Except.ok.inj same]
        exact .string v.display
  · obtain ⟨name, raw, v, o, found, inside⟩ := hidden
    have some : Value.firstHiddenBinding? bag.record.entries ≠ none := fun none =>
      bag.clear_record_iff.mp none name raw v found o inside
    obtain ⟨first, met⟩ := Option.ne_none_iff_exists'.mp some
    refine ⟨bag.record, bag.get?_record, ?_⟩
    rw [lines, Field.groupText_of_hidden met, Value.looseMap, Value.looseEntries_eq_intercalate]
    rfl

/-- An identifier and a time of the wrong sort, an empty text, a null and an argument that no field
reads; with an opaque extra besides, the same fields in the loose form. -/
theorem record_of_wrong_sorts :
    let bag : Bag := KeyMap.ofList [("uuid", .int 3), ("start_time", .text "noon"),
      ("duration", .duration ⟨0, 1500000, by decide⟩), ("error", .text "late"),
      ("source", .text ""), ("func_name", .text "read"), ("key", .list [.int 1, .null]),
      ("value", .null), ("user", .text "ann")]
    let closed : Bag := bag.insert "extra" (.hidden ⟨"conn", 0, default⟩)
    ∃ t, Template.compile filePattern .standard = .ok t ∧
      (∃ members : KeyMap Json,
        (t.line bag).value = Json.write (.object members.entries) ++ "\n" ∧
        Json.read? (Json.write (.object members.entries)) = some (.object members.entries) ∧
        members.get? "uuid" = some (.string "") ∧ members.get? "error" = some (.string "late") ∧
        members.get? "key" = some (.array [.ofInt 1, .null]) ∧
        ∀ name ∈ ["start_time", "source", "value", "user"], members.get? name = none) ∧
      ∃ shown : KeyMap Value, (shown.get? "extra").map Value.display = some "conn" ∧
        shown.get? "user" = none ∧
        (t.line closed).value = Text.inline ("\x7b" ++ " ".intercalate
          (shown.entries.map fun entry => entry.1 ++ ":" ++ entry.2.display) ++ "\x7d") ++
            "\n" := by
  intro bag closed
  obtain ⟨t, compiled, records⟩ := file_record_complete
  refine ⟨t, compiled, ?_, ?_⟩
  · have raws : ∀ name ∈ Bag.rawNames, ∀ v, bag.get? name = some v →
        v = .list [.int 1, .null] ∨ v = .null := by
      intro name raw v found
      simp only [Bag.rawNames, List.mem_cons, List.not_mem_nil, or_false] at raw
      rcases raw with rfl | rfl | rfl | rfl | rfl | rfl
      · exact .inl (Option.some.inj found).symm
      · exact .inr (Option.some.inj found).symm
      all_goals cases found
    have clear : ∀ name ∈ Bag.rawNames, ∀ v, bag.get? name = some v →
        ∀ o, ¬ Value.Within (.hidden o) v := by
      intro name raw v found
      rw [← Value.firstHidden?_eq_none_iff]
      rcases raws name raw v found with rfl | rfl <;> rfl
    have promised : ∀ name ∈ Bag.rawNames, ∀ v, bag.get? name = some v → v.Sound ∧ v.NoFloat := by
      intro name raw v found
      rcases raws name raw v found with rfl | rfl
      · refine ⟨⟨?_, ?_⟩, ⟨?_, ?_⟩⟩
        all_goals
          intro part inside
          cases inside with
          | item member inside =>
            rcases List.mem_pair.mp member with rfl | rfl <;> cases inside
      · exact ⟨⟨nofun, nofun⟩, ⟨nofun, nofun⟩⟩
    obtain ⟨members, line, bound, read⟩ := (records bag).1 clear
    have binds : ∀ name document, (bag.filed? name).map Value.toJson = some (.ok document) →
        members.get? name = some document := by
      intro name document filed
      obtain ⟨found, there, same⟩ := Option.map_eq_some_iff.mp ((bound name).trans filed)
      rw [there, Except.ok.inj same]
    refine ⟨members, line, read promised, binds "uuid" _ rfl, binds "error" _ rfl,
      binds "key" _ rfl, fun name absent => ?_⟩
    have unfiled : ∀ name ∈ ["start_time", "source", "value", "user"], bag.filed? name = none := by
      simp only [List.forall_mem_cons]
      exact ⟨rfl, rfl, rfl, rfl, nofun⟩
    have nothing := bound name
    rw [unfiled name absent] at nothing
    exact Option.map_eq_none_iff.mp nothing
  · obtain ⟨shown, looks, line⟩ := (records closed).2 ⟨"extra", by decide, _, _, rfl, .here⟩
    refine ⟨shown, ?_, ?_, line⟩
    · have extra := congrArg (Option.map Prod.snd) (looks "extra")
      rw [Option.map_map, Option.map_map] at extra
      exact extra
    · exact Option.map_eq_none_iff.mp (looks "user")

end Tapline
