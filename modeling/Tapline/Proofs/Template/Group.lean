import Tapline.Field.Shapes
import Tapline.Proofs.Template.Pool
import Tapline.Proofs.Value.Loose
/-!
# A group is a JSON object

The text of a group says exactly what its fields are. Without opaque parts it is one JSON object,
and a reader finds in it the fields of the group and their documents; with an opaque part anywhere
it is a list of keys and texts on one line.

## Main result

`group_decodes`, for every list of field functions and every bag.
-/

namespace Tapline

/-- The fields of a group are those of its functions, one by one. -/
theorem groupFields_value (functions : List FieldFunction) (bag : Bag) :
    (groupFields functions bag).value = functions.map fun f => (Probe.field (f bag)).value := by
  induction functions with
  | nil => rfl
  | cons f rest ih => simp [groupFields, ih]

namespace Field

theorem get?_members (fields : List Field) (key : String) :
    (members fields).get? key =
      (fields.filter fun field => !field.skip && field.key == key).getLast?.map Field.value := by
  have same : ((fields.filter fun field => !field.skip).map fun f => (f.key, f.value)).filter
      (fun entry => entry.1 == key) =
        (fields.filter fun field => !field.skip && field.key == key).map
          fun f => (f.key, f.value) := by
    simp only [List.filter_map, List.filter_filter, Function.comp_def, Bool.and_comm]
  rw [members, KeyMap.ofList, KeyMap.get?_insertMany, same]
  simp only [List.getLast?_map, Option.map_map, Function.comp_def, KeyMap.get?_empty,
    Option.or_none]

/-- Without opaque parts the text of fields is that of an object of their documents. -/
theorem groupText_of_document {fields : List Field} {members : List (String × Json)}
    (made : Value.toJsonEntries (Field.members fields).entries = .ok members) :
    (groupText fields).value = Json.write (.object members) := by
  have text : (Value.map (Field.members fields).entries).jsonText =
      .ok (Json.write (.object members)) := by
    rw [Value.jsonText_eq_map_write, Value.toJson, made]
    rfl
  simp only [groupText, text]
  rfl

theorem groupText_of_hidden {fields : List Field} {o : Opaque}
    (found : Value.firstHiddenBinding? (Field.members fields).entries = some o) :
    (groupText fields).value = Text.inline (Value.looseMap (Field.members fields).entries) := by
  have failed : (Value.map (Field.members fields).entries).jsonText = .error ⟨o.label⟩ := by
    rw [Value.jsonText_eq_map_write, Value.toJson, Value.toJsonEntries_eq_error found]
    rfl
  simp only [groupText, failed]

end Field

/-- **A group is faithful.** The fields of a group are its results that are not skipped, of several
with one key the last. Unless one holds an opaque value, and floats apart, reading the text of the
group gives the object that binds each key to the document of its value; if one does, the text is
the list of keys and texts, on one line. The text joins a line under way as it is. What is asked of
the values beside this is what their type promises. -/
theorem group_decodes (functions : List FieldFunction) (bag : Bag) :
    let fields := functions.map fun f => (Probe.field (f bag)).value
    let shown := Field.members fields
    let text := ((Segment.group functions).text bag).value
    (∀ key, shown.get? key =
      (fields.filter fun field => !field.skip && field.key == key).getLast?.map Field.value) ∧
    ((∀ entry ∈ shown.entries, ∀ o, ¬ Value.Within (.hidden o) entry.2) →
      (∀ entry ∈ shown.entries, entry.2.Sound ∧ entry.2.NoFloat) →
      ∃ members, Json.read? text = some (.object members) ∧
        List.Forall₂ (fun entry member => entry.1 = member.1 ∧ entry.2.toJson = .ok member.2)
          shown.entries members) ∧
    ((∃ entry ∈ shown.entries, ∃ o, Value.Within (.hidden o) entry.2) →
      text = Text.inline ("\x7b" ++
        " ".intercalate (shown.entries.map fun entry => entry.1 ++ ":" ++ entry.2.display) ++
        "\x7d")) ∧
    ∀ line pool, ((Segment.group functions).build bag line pool).value = line ++ text := by
  intro fields shown text
  have same : text = (Field.groupText fields).value := by
    simp only [text, fields, Segment.text, groupFields_value]
  refine ⟨Field.get?_members fields, ?_, ?_, ?_⟩
  · intro clear promised
    -- No opaque part is met, so there is a document, and it is one that reads back.
    have none : Value.firstHiddenBinding? shown.entries = none :=
      Value.firstHiddenBinding?_eq_none_iff.mpr fun entry member =>
        Value.firstHidden?_eq_none (clear entry member)
    obtain ⟨members, made⟩ := Value.exists_toJsonEntries none
    have related := Value.toJsonEntries_eq_ok_iff.mp made
    have ascending : Ascending members :=
      Value.ascending_of_same_keys (related.imp fun _ _ both => both.1) shown.ascending
    have plain : Json.Plain (.object members) := by
      refine .object ascending fun member taken => ?_
      obtain ⟨entry, given, -, made⟩ := Value.exists_of_forall₂ related taken
      obtain ⟨sound, noFloat⟩ := promised entry given
      exact Value.toJson_plain sound noFloat made
    refine ⟨members, ?_, related⟩
    rw [same, Field.groupText_of_document made]
    exact Json.read?_write plain
  · rintro ⟨entry, member, o, inside⟩
    have some : Value.firstHiddenBinding? shown.entries ≠ none := by
      rw [ne_eq, Value.firstHiddenBinding?_eq_none_iff]
      exact fun clear => Value.firstHidden?_ne_none inside (clear entry member)
    obtain ⟨first, found⟩ := Option.ne_none_iff_exists'.mp some
    rw [same, Field.groupText_of_hidden found, Value.looseMap, Value.looseEntries_eq_intercalate]
  · intro line pool
    exact (Segment.build_eq (.group functions) bag line pool).1

/-- A key that is bound twice, a skipped field and a text with a quotation mark and a line feed in
one group; an opaque value deep inside the other. -/
theorem group_of_quotes :
    let clear : List FieldFunction :=
      [.constant "k" (.text "old"), .constant "n" (.list [.int (-3), .null]),
        .ofPure fun _ => .skipped "s", .constant "k" (.text "\x22\n")]
    let hidden : List FieldFunction :=
      [.constant "o" (.list [.hidden ⟨"conn", 0, default⟩]), .constant "b" (.text "x\ny")]
    Json.read? ((Segment.group clear).text ∅).value =
        some (.object [("k", .string "\x22\n"), ("n", .array [.ofInt (-3), .null])]) ∧
      ((Segment.group hidden).text ∅).value = "\x7bb:x\\ny o:[conn]\x7d" := by
  intro clear hidden
  constructor
  · have shown : (Field.members (clear.map fun f => (Probe.field (f ∅)).value)).entries =
        [("k", .text "\x22\n"), ("n", .list [.int (-3), .null])] := rfl
    have decoded := (group_decodes clear ∅).2.1
    simp only [shown, List.forall_mem_cons, List.not_mem_nil, false_imp_iff, implies_true,
      and_true, ← Value.firstHidden?_eq_none_iff] at decoded
    have promised : (Value.list [.int (-3), .null]).Sound ∧
        (Value.list [.int (-3), .null]).NoFloat := by
      refine ⟨⟨?_, ?_⟩, ⟨?_, ?_⟩⟩
      all_goals
        intro part inside
        cases inside with
        | item member inside =>
          simp only [List.mem_cons, List.not_mem_nil, or_false] at member
          rcases member with rfl | rfl <;> cases inside
    obtain ⟨members, read, related⟩ :=
      decoded ⟨rfl, rfl⟩ ⟨⟨⟨nofun, nofun⟩, ⟨nofun, nofun⟩⟩, promised⟩
    have made := Value.toJsonEntries_eq_ok_iff.mpr related
    rw [read, ← Except.ok.inj made]
    rfl
  · have found : ∃ entry ∈ (Field.members (hidden.map fun f => (Probe.field (f ∅)).value)).entries,
        ∃ o, Value.Within (.hidden o) entry.2 :=
      ⟨("o", .list [.hidden ⟨"conn", 0, default⟩]), List.mem_cons_of_mem _ List.mem_cons_self,
        ⟨"conn", 0, default⟩, .item List.mem_cons_self .here⟩
    rw [(group_decodes hidden ∅).2.2.1 found]
    decide +kernel

end Tapline
