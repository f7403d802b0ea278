import Tapline.Proofs.Template.Group
import Tapline.Proofs.Template.InPlace
/-!
# What each segment adds to a line

A line is what stood in the text before, followed by what each segment adds, and what a segment
adds hangs on the segment and the bag alone. That is said character by character here, for a text
that has just been written is escaped by two passes over the end of a longer one, or left alone.
-/

namespace Tapline

/-- A text with each line break in it escaped, character by character. -/
def Text.escaped (s : String) : String := String.ofList (s.toList.flatMap inlineChar)

theorem Text.inline_eq_escaped (s : String) : inline s = escaped s :=
  String.ext (by simp [escaped, toList_inline])

/-- What a segment adds to the line of a bag. -/
def Segment.contribution (bag : Bag) : Segment → String
  | .literal text => text
  | .call f =>
    let field := (Probe.field (f bag)).value
    if field.skip then "" else Text.escaped field.value.display
  | .group fs =>
    let shown := Field.members (fs.map fun f => (Probe.field (f bag)).value)
    match (Value.map shown.entries).jsonText with
    | .ok json => json
    | .error _ => Text.escaped (Value.looseMap shown.entries)

theorem Segment.text_value (segment : Segment) (bag : Bag) :
    (segment.text bag).value = segment.contribution bag := by
  cases segment with
  | literal text => rfl
  | call f => simp only [Segment.text, contribution, Field.text, Text.inline_eq_escaped]
  | group fs =>
    simp only [Segment.text, contribution, groupFields_value, Field.groupText]
    -- Only the entries matter from here on.
    generalize (Field.members (fs.map fun f => (Probe.field (f bag)).value)).entries = entries
    cases (Value.map entries).jsonText with
    | ok json => rfl
    | error cause => exact Text.inline_eq_escaped _

theorem bodyText_value (segments : List Segment) (bag : Bag) :
    (bodyText segments bag).value = String.join (segments.map (Segment.contribution bag)) := by
  induction segments with
  | nil => rfl
  | cons segment rest ih =>
    simp only [bodyText, ih, Segment.text_value, List.map_cons, String.join_cons]

/-! ### Skipped fields -/

theorem Segment.contribution_call_of_skip {f : FieldFunction} {bag : Bag}
    (skip : (Probe.field (f bag)).value.skip = true) : (Segment.call f).contribution bag = "" := by
  simp only [contribution, skip, if_true]

theorem Field.members_of_skip {field : Field} (skip : field.skip = true)
    (older newer : List Field) : members (older ++ field :: newer) = members (older ++ newer) := by
  simp [members, skip]

theorem Segment.contribution_group_of_skip {f : FieldFunction} {bag : Bag}
    (skip : (Probe.field (f bag)).value.skip = true) (fs gs : List FieldFunction) :
    (Segment.group (fs ++ f :: gs)).contribution bag =
      (Segment.group (fs ++ gs)).contribution bag := by
  simp only [contribution, List.map_append, List.map_cons, Field.members_of_skip skip]

/-- **A line is the sum of what its segments add.** What stood in the text before is left alone,
whether the line is built beside the thread's buffer, in it, or in a text of its own. A skipped
field adds nothing: without its call, or without its function in a group, the line is the same.
The fields that a group shows are those that are not skipped, and of several with one key the last
of these. -/
theorem line_adds_up (bag : Bag) (line : String) :
    (∀ segments,
      let longer := line ++ String.join (segments.map (Segment.contribution bag))
      (∀ pool, (buildBody segments bag line pool).value = longer ∧
        (writeBody segments bag (.own line) pool).value = .own longer) ∧
      ∀ capacity, (writeBody segments bag .pooled ⟨line, capacity, true⟩).pool =
        ⟨longer, capacity, true⟩) ∧
    (∀ (f : FieldFunction), (Probe.field (f bag)).value.skip = true →
      (∀ before after pool pool', (buildBody (before ++ .call f :: after) bag line pool).value =
        (buildBody (before ++ after) bag line pool').value) ∧
      ∀ before fs gs after pool pool',
        (buildBody (before ++ .group (fs ++ f :: gs) :: after) bag line pool).value =
          (buildBody (before ++ .group (fs ++ gs) :: after) bag line pool').value) ∧
    ∀ (fs : List FieldFunction) (key : String),
      let fields := fs.map fun f => (Probe.field (f bag)).value
      (Field.members fields).get? key =
        (fields.filter fun field => !field.skip && field.key == key).getLast?.map Field.value := by
  have adds (segments : List Segment) (pool : LinePool) :
      (buildBody segments bag line pool).value =
        line ++ String.join (segments.map (Segment.contribution bag)) := by
    rw [(buildBody_eq segments bag line pool).1, bodyText_value]
  refine ⟨fun segments => ⟨fun pool => ⟨adds segments pool, ?_⟩, fun capacity => ?_⟩,
    fun f skip => ⟨?_, ?_⟩, fun fs => Field.get?_members _⟩
  · rw [writeBody_own, Building.map, adds]
  · rw [writeBody_pooled, bodyText_value]
  · intro before after pool pool'
    simp only [adds, List.map_append, List.map_cons, String.join_append, String.join_cons,
      Segment.contribution_call_of_skip skip, String.empty_append]
  · intro before fs gs after pool pool'
    simp only [adds, List.map_append, List.map_cons, Segment.contribution_group_of_skip skip]

/-- A text with both sorts of line breaks after a literal that has one of its own. Its key is also
that of a field that is skipped, which is called and stands in the group. -/
theorem line_of_two_kept_fields :
    let kept : FieldFunction := .constant "k" (.text "x\r\ny")
    let gone : FieldFunction := .ofPure fun _ => .skipped "k"
    let segments := [.literal "a\n", .call gone, .call kept] ++
      .group ([kept] ++ gone :: [.constant "n" (.int 1)]) :: []
    (Probe.field (gone ∅)).value.skip = true ∧
      (buildBody segments ∅ "old\n" .fresh).value =
        "old\na\nx\\r\\ny\x7b\x22k\x22:\x22x\\r\\ny\x22,\x22n\x22:1\x7d" := by
  intro kept gone segments
  have skip : (Probe.field (gone ∅)).value.skip = true := rfl
  obtain ⟨sum, less, -⟩ := line_adds_up ∅ "old\n"
  obtain ⟨called, grouped⟩ := less gone skip
  refine ⟨skip, ?_⟩
  -- First the group loses the skipped field, then the line its call.
  rw [grouped _ [kept] _ [] .fresh .fresh]
  refine (called [.literal "a\n"] _ .fresh .fresh).trans ?_
  rw [((sum _).1 .fresh).1]
  decide +kernel

end Tapline
