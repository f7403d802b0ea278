import Tapline.Proofs.Json.Equality
import Tapline.Proofs.Time.Local
import Tapline.Proofs.Value.Loose
/-!
# Equality of values

Values are compared within their sort: local times as points in time, errors by their text, opaque
values by identity, everything else by content. Where no double is involved this is an equivalence.
Equal values look the same in every form if they store the same offsets with their times, and they
have the same document only then; of two equal times with different offsets each shows its own hour.

## Main result

`equality_respects_forms`.

## Proof strategy

`Matches` says once what a comparison comes to for the parts of two values. Each law of equality is
then an induction over the parts of the first value, with one case for each way to be equal. The
times in two equal values are the same points in the same order, so with the same offsets they are
the same times. Then the values have the same document; with it they have the same JSON text, and
the same choice between JSON form and looser form at every level of their text. The other way round,
a document has the text of each time, and with the point in time that tells the offset.
-/

namespace Tapline

namespace Value

/-- Induction over a value by its items and entries. -/
theorem parts_induction {motive : Value → Prop}
    (step : ∀ v, (∀ items, v = .list items → ∀ item ∈ items, motive item) →
      (∀ entries, v = .map entries → ∀ entry ∈ entries, motive entry.2) → motive v)
    (v : Value) : motive v := by
  apply step
  · intro items shape item member
    exact parts_induction step item
  · intro entries shape entry member
    exact parts_induction step entry.2
termination_by sizeOf v
decreasing_by
  · have less := List.sizeOf_lt_of_mem member
    rw [shape, list.sizeOf_spec]
    omega
  · have less := Json.sizeOf_value_lt member
    rw [shape, map.sizeOf_spec]
    omega

/-! ### One comparison -/

/-- The sorts of values that are equal only to themselves. -/
def isAtom : Value → Bool
  | .float _ | .time _ | .list _ | .map _ | .json _ | .hidden _ => false
  | _ => true

/-- One comparison: what it comes to for the parts of two values. -/
inductive Matches : Value → Value → Prop
  | atom {v : Value} (atomic : v.isAtom = true) : Matches v v
  | float {x y : Binary64} (same : x.equals y = true) : Matches (.float x) (.float y)
  | time {s t : LocalTime} (same : s.instant = t.instant) : Matches (.time s) (.time t)
  | json {a b : Json} (same : a.equals b = true) : Matches (.json a) (.json b)
  | hidden {o p : Opaque} (same : o.identity = p.identity) : Matches (.hidden o) (.hidden p)
  | list {items others : List Value}
      (each : List.Forall₂ (fun a b => a.equals b = true) items others) :
      Matches (.list items) (.list others)
  | map {entries others : List (String × Value)}
      (each : List.Forall₂ (fun a b => a.1 = b.1 ∧ a.2.equals b.2 = true) entries others) :
      Matches (.map entries) (.map others)

theorem equalsItems_iff {items others : List Value} : equalsItems items others = true ↔
    List.Forall₂ (fun a b => a.equals b = true) items others := by
  induction items generalizing others with
  | nil => cases others <;> simp [equalsItems]
  | cons item rest ih => cases others <;> simp [equalsItems, ih]

theorem equalsEntries_iff {entries others : List (String × Value)} :
    equalsEntries entries others = true ↔
      List.Forall₂ (fun a b => a.1 = b.1 ∧ a.2.equals b.2 = true) entries others := by
  induction entries generalizing others with
  | nil => cases others <;> simp [equalsEntries]
  | cons entry rest ih =>
    obtain ⟨key, value⟩ := entry
    cases others <;> simp [equalsEntries, ih]

theorem beq_bytes_iff {a b : ByteArray} : (a == b) = true ↔ a = b := by
  obtain ⟨a⟩ := a
  obtain ⟨b⟩ := b
  rw [ByteArray.mk.injEq, ← beq_iff_eq (a := a)]
  rfl

theorem equals_self_of_isAtom {v : Value} (atomic : v.isAtom = true) : v.equals v = true := by
  match v with
  | .null => rw [equals]
  | .text _ | .int _ | .uint _ | .bool _ | .duration _ | .error _ =>
    rw [equals, beq_self_eq_true]
  | .bytes _ =>
    rw [equals]
    exact beq_bytes_iff.mpr rfl
  | .float _ | .time _ | .list _ | .map _ | .json _ | .hidden _ => cases atomic

theorem equals_iff {a b : Value} : a.equals b = true ↔ Matches a b := by
  constructor
  · intro same
    unfold equals at same
    split at same
    -- The cases stand in the order of the comparison; those not named here compare by content.
    case h_1 => exact .atom rfl
    case h_5 => exact .float same
    case h_7 => exact .time (eq_of_beq same)
    case h_9 =>
      obtain rfl := beq_bytes_iff.mp same
      exact .atom rfl
    case h_10 => exact .list (equalsItems_iff.mp same)
    case h_11 => exact .map (equalsEntries_iff.mp same)
    case h_12 => exact .json same
    case h_14 => exact .hidden (eq_of_beq same)
    case h_15 => cases same
    all_goals
      obtain rfl := eq_of_beq same
      exact .atom rfl
  · rintro (atomic | same | same | same | same | each | each)
    · exact equals_self_of_isAtom atomic
    · rwa [equals]
    · rw [equals, LocalTime.simultaneous, same, beq_self_eq_true]
    · rwa [equals]
    · rw [equals, same, beq_self_eq_true]
    · rwa [equals, equalsItems_iff]
    · rwa [equals, equalsEntries_iff]

/-! ### A partial equivalence -/

theorem equals_symm {a b : Value} (same : a.equals b = true) : b.equals a = true := by
  induction a using parts_induction generalizing b with
  | step a items entries =>
    rw [equals_iff] at same ⊢
    cases same with
    | atom atomic => exact .atom atomic
    | float same => exact .float (Binary64.equals_symm same)
    | time same => exact .time same.symm
    | json same => exact .json (Json.equals_symm same)
    | hidden same => exact .hidden same.symm
    | list each => exact .list (forall₂_of_mem each fun x inside _ _ => items _ rfl x inside).flip
    | map each =>
      refine .map (forall₂_of_mem each fun x inside _ _ both => ?_).flip
      exact ⟨both.1.symm, entries _ rfl x inside both.2⟩

theorem equals_trans {a b c : Value} (first : a.equals b = true) (second : b.equals c = true) :
    a.equals c = true := by
  induction a using parts_induction generalizing b c with
  | step a items entries =>
    rw [equals_iff] at first
    cases first with
    | atom => exact second
    -- In each case the first comparison settles the sort of the second one.
    | float same =>
      rw [equals_iff] at second ⊢
      cases second with
      | atom atomic => cases atomic
      | float same' => exact .float (Binary64.equals_trans same same')
    | time same =>
      rw [equals_iff] at second ⊢
      cases second with
      | atom atomic => cases atomic
      | time same' => exact .time (same.trans same')
    | json same =>
      rw [equals_iff] at second ⊢
      cases second with
      | atom atomic => cases atomic
      | json same' => exact .json (Json.equals_trans same same')
    | hidden same =>
      rw [equals_iff] at second ⊢
      cases second with
      | atom atomic => cases atomic
      | hidden same' => exact .hidden (same.trans same')
    | list each =>
      rw [equals_iff] at second ⊢
      cases second with
      | atom atomic => cases atomic
      | list each' =>
        refine .list (forall₂_of_mem (forall₂_comp each each') fun x inside z _ between => ?_)
        obtain ⟨y, same, same'⟩ := between
        exact items _ rfl x inside same same'
    | map each =>
      rw [equals_iff] at second ⊢
      cases second with
      | atom atomic => cases atomic
      | map each' =>
        refine .map (forall₂_of_mem (forall₂_comp each each') fun x inside z _ between => ?_)
        obtain ⟨y, ⟨key, same⟩, key', same'⟩ := between
        exact ⟨key.trans key', entries _ rfl x inside same same'⟩

/-- Every double in a value is a number. -/
structure Numeric (v : Value) : Prop where
  floats : ∀ x, Within (.float x) v → x.isNaN = false
  documents : ∀ document, Within (.json document) v → document.Numeric

namespace Numeric

theorem item {items : List Value} (numeric : Numeric (.list items)) {item : Value}
    (member : item ∈ items) : Numeric item where
  floats := fun x inside => numeric.floats x (.item member inside)
  documents := fun document inside => numeric.documents document (.item member inside)

theorem value {entries : List (String × Value)} (numeric : Numeric (.map entries)) {key : String}
    {value : Value} (member : (key, value) ∈ entries) : Numeric value where
  floats := fun x inside => numeric.floats x (.entry member inside)
  documents := fun document inside => numeric.documents document (.entry member inside)

end Numeric

theorem NoFloat.numeric {v : Value} (clear : v.NoFloat) : v.Numeric where
  floats := fun x inside => absurd inside (clear.floats x)
  documents := fun document inside _ within => absurd within (clear.documents document inside _)

theorem equals_self_of_within {part v : Value} (inside : Within part v)
    (same : v.equals v = true) : part.equals part = true := by
  induction inside with
  | here => exact same
  | item member _ ih =>
    rw [equals, equalsItems_iff, List.forall₂_same] at same
    exact ih (same _ member)
  | entry member _ ih =>
    rw [equals, equalsEntries_iff, List.forall₂_same] at same
    exact ih (same _ member).2

/-- A value is equal to itself unless a double in it is no number. -/
theorem equals_self_iff {v : Value} : v.equals v = true ↔ v.Numeric := by
  constructor
  · refine fun same => ⟨fun x inside => ?_, fun document inside => ?_⟩
    · have equal := equals_self_of_within inside same
      rw [equals, Binary64.equals_self] at equal
      simpa using equal
    · have equal := equals_self_of_within inside same
      rwa [equals, Json.equals_self_iff] at equal
  · intro numeric
    induction v using parts_induction with
    | step v items entries =>
      rw [equals_iff]
      match v with
      | .null | .text _ | .int _ | .uint _ | .bool _ | .duration _ | .bytes _ | .error _ =>
        exact .atom rfl
      | .time t => exact .time rfl
      | .float x =>
        apply Matches.float
        rw [Binary64.equals_self, numeric.floats x .here]
        rfl
      | .json document => exact .json (Json.equals_self_iff.mpr (numeric.documents _ .here))
      | .hidden o => exact .hidden rfl
      | .list parts =>
        apply Matches.list
        rw [List.forall₂_same]
        exact fun item member => items _ rfl item member (numeric.item member)
      | .map parts =>
        apply Matches.map
        rw [List.forall₂_same]
        exact fun entry member => ⟨rfl, entries _ rfl entry member (numeric.value member)⟩

/-! ### Times in a value -/

mutual

/-- The times in a value at any depth, from the left. -/
def times : Value → List LocalTime
  | .time t => [t]
  | .list items => timesOfItems items
  | .map entries => timesOfEntries entries
  | _ => []

def timesOfItems : List Value → List LocalTime
  | [] => []
  | item :: rest => times item ++ timesOfItems rest

def timesOfEntries : List (String × Value) → List LocalTime
  | [] => []
  | (_, value) :: rest => times value ++ timesOfEntries rest

end

/-- The offsets that are stored with the times. -/
def offsets (v : Value) : List ZoneOffset := v.times.map LocalTime.offset

/-- The offset of each time is that of one zone at the time. -/
def InZone (zone : Timestamp → ZoneOffset) (v : Value) : Prop :=
  ∀ t ∈ v.times, t.offset = zone t.instant

@[simp] theorem times_list (items : List Value) :
    (Value.list items).times = items.flatMap times := by
  rw [times]
  induction items with
  | nil => rfl
  | cons item rest ih => simp [timesOfItems, ih]

@[simp] theorem times_map (entries : List (String × Value)) :
    (Value.map entries).times = entries.flatMap fun entry => entry.2.times := by
  rw [times]
  induction entries with
  | nil => rfl
  | cons entry rest ih =>
    obtain ⟨key, value⟩ := entry
    simp [timesOfEntries, ih]

theorem map_eq_map_of_forall₂ {α : Type u} {β : Type v} {γ : Type w} {f : α → γ} {g : β → γ}
    {as : List α} {bs : List β} (each : List.Forall₂ (fun a b => f a = g b) as bs) :
    as.map f = bs.map g := by
  rw [← List.forall₂_eq_eq_eq, List.forall₂_map_left_iff, List.forall₂_map_right_iff]
  exact each

theorem flatMap_eq_flatMap_of_forall₂ {α : Type u} {β : Type v} {γ : Type w} {f : α → List γ}
    {g : β → List γ} {as : List α} {bs : List β}
    (each : List.Forall₂ (fun a b => f a = g b) as bs) : as.flatMap f = bs.flatMap g := by
  rw [List.flatMap_def, List.flatMap_def, map_eq_map_of_forall₂ each]

/-- The rows of related parts can be told apart in the row of the whole if they are as long. -/
theorem forall₂_and_of_flatMap_eq {α : Type u} {β : Type v} {γ : Type w} {R : α → β → Prop}
    {f : α → List γ} {g : β → List γ} {as : List α} {bs : List β} (each : List.Forall₂ R as bs)
    (lengths : ∀ a b, R a b → (f a).length = (g b).length) (same : as.flatMap f = bs.flatMap g) :
    List.Forall₂ (fun a b => R a b ∧ f a = g b) as bs := by
  induction each with
  | nil => exact .nil
  | cons head _ ih =>
    rw [List.flatMap_cons, List.flatMap_cons] at same
    obtain ⟨first, others⟩ := List.append_inj same (lengths _ _ head)
    exact .cons ⟨head, first⟩ (ih others)

/-- Equal values hold times of the same points, in the same order. -/
theorem instants_eq {a b : Value} (same : a.equals b = true) :
    a.times.map LocalTime.instant = b.times.map LocalTime.instant := by
  induction a using parts_induction generalizing b with
  | step a items entries =>
    rw [equals_iff] at same
    cases same with
    | atom => rfl
    | float | json | hidden => simp [times]
    | time same => simp [times, same]
    | list each =>
      rw [times_list, times_list, List.map_flatMap, List.map_flatMap]
      exact flatMap_eq_flatMap_of_forall₂
        (forall₂_of_mem each fun x inside _ _ equal => items _ rfl x inside equal)
    | map each =>
      rw [times_map, times_map, List.map_flatMap, List.map_flatMap]
      exact flatMap_eq_flatMap_of_forall₂
        (forall₂_of_mem each fun x inside _ _ both => entries _ rfl x inside both.2)

theorem length_times {a b : Value} (same : a.equals b = true) :
    a.times.length = b.times.length := by
  simpa using congrArg List.length (instants_eq same)

/-- A time is its point and its offset, and equal values have the points in common. -/
theorem times_eq {a b : Value} (same : a.equals b = true) (stored : a.offsets = b.offsets) :
    a.times = b.times := by
  have split : ∀ ts : List LocalTime,
      ts = List.zipWith LocalTime.mk (ts.map LocalTime.instant) (ts.map LocalTime.offset) := by
    intro ts
    rw [List.zipWith_map, List.zipWith_self, List.map_id']
  rw [split a.times, split b.times, instants_eq same, show a.times.map _ = _ from stored]
  rfl

/-- In one zone the point in time decides about the offset. -/
theorem InZone.offsets {zone : Timestamp → ZoneOffset} {v : Value} (inZone : v.InZone zone) :
    v.offsets = (v.times.map LocalTime.instant).map zone := by
  rw [Value.offsets, List.map_map]
  exact List.map_congr_left inZone

/-! ### Equal values look the same -/

/-- Opaque values of one identity show one label: they are copies of one another. -/
def ClonesAgree (a b : Value) : Prop :=
  ∀ o p, Within (.hidden o) a → Within (.hidden p) b → o.identity = p.identity → o.label = p.label

theorem toJsonItems_congr {items others : List Value}
    (each : List.Forall₂ (fun a b => a.toJson = b.toJson) items others) :
    toJsonItems items = toJsonItems others := by
  induction each with
  | nil => rfl
  | cons head _ ih => rw [toJsonItems, toJsonItems, head, ih]

theorem toJsonEntries_congr {entries others : List (String × Value)}
    (each : List.Forall₂ (fun a b => a.1 = b.1 ∧ a.2.toJson = b.2.toJson) entries others) :
    toJsonEntries entries = toJsonEntries others := by
  induction each with
  | nil => rfl
  | @cons entry other _ _ head _ ih =>
    obtain ⟨key, value⟩ := entry
    obtain ⟨key', value'⟩ := other
    obtain ⟨rfl, same⟩ := head
    rw [toJsonEntries, toJsonEntries, same, ih]

theorem display_list (items : List Value) : display (.list items) = "[" ++
    (match toJsonItems items with
      | .ok documents => Json.writeItems documents
      | .error _ => " ".intercalate (items.map display)) ++ "]" := by
  rw [display, jsonItems_eq_map_write]
  cases toJsonItems items with
  | ok documents => rfl
  | error e => rw [← looseItems_eq_intercalate]; rfl

theorem display_map (entries : List (String × Value)) : display (.map entries) = "\x7b" ++
    (match toJsonEntries entries with
      | .ok members => Json.writeMembers members
      | .error _ => " ".intercalate (entries.map fun entry => entry.1 ++ ":" ++ entry.2.display)) ++
    "\x7d" := by
  rw [display, jsonEntries_eq_map_write]
  cases toJsonEntries entries with
  | ok members => rfl
  | error e => rw [← looseEntries_eq_intercalate]; rfl

/-- Without floats, equal values of the same times have one document and one text, or one reason for
having no document. -/
theorem forms_congr {a b : Value} (same : a.equals b = true) (clear : a.NoFloat)
    (clones : ClonesAgree a b) (times : a.times = b.times) :
    a.toJson = b.toJson ∧ a.display = b.display := by
  induction a using parts_induction generalizing b with
  | step a items entries =>
    rw [equals_iff] at same
    cases same with
    | atom => exact ⟨rfl, rfl⟩
    | float => exact absurd .here (clear.floats _)
    | time =>
      obtain rfl : _ = _ := by simpa [Value.times] using times
      exact ⟨rfl, rfl⟩
    | json same =>
      obtain rfl := Json.eq_of_equals (clear.documents _ .here) same
      exact ⟨rfl, rfl⟩
    | hidden same =>
      have label := clones _ _ .here .here same
      rw [toJson, toJson, display, display, label]
      exact ⟨rfl, rfl⟩
    -- What is opaque in a part is opaque in the whole, so the clones agree there too; and the times
    -- of the parts can be told apart in those of the whole.
    | list each =>
      rw [times_list, times_list] at times
      have pairs := forall₂_and_of_flatMap_eq each (fun _ _ => length_times) times
      have forms := forall₂_of_mem pairs fun x inside y within pair =>
        items _ rfl x inside pair.1 (clear.item inside)
          (fun o p left right => clones o p (.item inside left) (.item within right)) pair.2
      have documents := toJsonItems_congr (forms.imp fun _ _ both => both.1)
      have texts := map_eq_map_of_forall₂ (forms.imp fun _ _ both => both.2)
      rw [toJson, toJson, display_list, display_list, documents, texts]
      exact ⟨rfl, rfl⟩
    | map each =>
      rw [times_map, times_map] at times
      have pairs := forall₂_and_of_flatMap_eq each (fun _ _ both => length_times both.2) times
      have forms := forall₂_of_mem pairs fun x inside y within pair =>
        And.intro pair.1.1 (entries _ rfl x inside pair.1.2 (clear.value inside)
          (fun o p left right => clones o p (.entry inside left) (.entry within right)) pair.2)
      have documents := toJsonEntries_congr (forms.imp fun _ _ both => ⟨both.1, both.2.1⟩)
      have texts := map_eq_map_of_forall₂ (forms.imp fun x y both =>
        show x.1 ++ ":" ++ x.2.display = y.1 ++ ":" ++ y.2.display by rw [both.1, both.2.2])
      rw [toJson, toJson, display_map, display_map, documents, texts]
      exact ⟨rfl, rfl⟩

/-- Equal values with one document store the same offsets: each time has its text there. -/
theorem offsets_of_toJson {a b : Value} {document : Json} (same : a.equals b = true)
    (left : a.toJson = .ok document) (right : b.toJson = .ok document) : a.offsets = b.offsets := by
  induction a using parts_induction generalizing b document with
  | step a items entries =>
    rw [equals_iff] at same
    cases same with
    | atom => rfl
    | float | json | hidden => simp [offsets, times]
    | @time s t together =>
      have text : s.text = t.text := by
        rw [toJson] at left right
        simpa using (Except.ok.inj left).trans (Except.ok.inj right).symm
      simp [offsets, times, LocalTime.offset_of_text together text]
    | list each =>
      obtain ⟨documents, made, rfl⟩ := toJson_list_eq_ok_iff.mp left
      obtain ⟨_, made', same⟩ := toJson_list_eq_ok_iff.mp right
      obtain rfl := Json.array.inj same
      have pairs := forall₂_and_of_common each (toJsonItems_eq_ok_iff.mp made)
        (toJsonItems_eq_ok_iff.mp made')
      rw [offsets, offsets, times_list, times_list, List.map_flatMap, List.map_flatMap]
      refine flatMap_eq_flatMap_of_forall₂ (forall₂_of_mem pairs fun x inside y _ pair => ?_)
      obtain ⟨equal, shown, first, second⟩ := pair
      exact items _ rfl x inside equal first second
    | map each =>
      obtain ⟨members, made, rfl⟩ := toJson_map_eq_ok_iff.mp left
      obtain ⟨_, made', same⟩ := toJson_map_eq_ok_iff.mp right
      obtain rfl := Json.object.inj same
      have pairs := forall₂_and_of_common each (toJsonEntries_eq_ok_iff.mp made)
        (toJsonEntries_eq_ok_iff.mp made')
      rw [offsets, offsets, times_map, times_map, List.map_flatMap, List.map_flatMap]
      refine flatMap_eq_flatMap_of_forall₂ (forall₂_of_mem pairs fun x inside y _ pair => ?_)
      obtain ⟨⟨-, equal⟩, shown, ⟨-, first⟩, -, second⟩ := pair
      exact entries _ rfl x inside equal first second

/-- **Equality respects the forms.** Every value without a float is equal to itself, and so is any
value in which each double is a number. Equality is symmetric and transitive. Take equal values
without floats, in which opaque values of one identity show one label: if they store the same
offsets with their times, they have the same text, the same JSON text or none for the same reason,
and the same document or none. Equal values that have one document do store the same offsets, and so
do equal values with times that are all from one zone. -/
theorem equality_respects_forms :
    (∀ v : Value, v.NoFloat → v.equals v = true) ∧
    (∀ v : Value, v.equals v = true ↔ v.Numeric) ∧
    (∀ a b : Value, a.equals b = true → b.equals a = true) ∧
    (∀ a b c : Value, a.equals b = true → b.equals c = true → a.equals c = true) ∧
    (∀ a b : Value, a.NoFloat → ClonesAgree a b → a.equals b = true → a.offsets = b.offsets →
      a.display = b.display ∧ a.jsonText = b.jsonText ∧ a.toJson = b.toJson) ∧
    (∀ (a b : Value) (document : Json), a.equals b = true → a.toJson = .ok document →
      b.toJson = .ok document → a.offsets = b.offsets) ∧
    (∀ (zone : Timestamp → ZoneOffset) (a b : Value), a.InZone zone → b.InZone zone →
      a.equals b = true → a.offsets = b.offsets) := by
  refine ⟨fun v clear => equals_self_iff.mpr clear.numeric, fun _ => equals_self_iff,
    fun _ _ => equals_symm, fun _ _ _ => equals_trans, fun a b clear clones same stored => ?_,
    fun _ _ _ => offsets_of_toJson, fun zone a b here there same => ?_⟩
  · obtain ⟨document, text⟩ := forms_congr same clear clones (times_eq same stored)
    refine ⟨text, ?_, document⟩
    rw [jsonText_eq_map_write, jsonText_eq_map_write, document]
  · rw [here.offsets, there.offsets, instants_eq same]

theorem NoFloat.list {items : List Value} (each : ∀ item ∈ items, NoFloat item) :
    NoFloat (.list items) where
  floats := fun x inside => by
    cases inside with
    | item member inside => exact (each _ member).floats x inside
  documents := fun document inside => by
    cases inside with
    | item member inside => exact (each _ member).documents document inside

theorem NoFloat.time (t : LocalTime) : NoFloat (.time t) where
  floats := fun x inside => by cases inside
  documents := fun document inside => by cases inside

theorem ClonesAgree.time (s : LocalTime) (b : Value) : ClonesAgree (.time s) b :=
  fun o p inside => by cases inside

/-- A list with an opaque value, a time of a clock an hour ahead, and an error. Another opaque value
of the same label makes a list that is not equal to it, though it looks the same. A list with the
time of a clock in UTC instead is equal to the other, and has another document. -/
theorem copies_of_list_equal :
    let clock : LocalTime := ⟨⟨0, 0⟩, ⟨3600, by decide⟩⟩
    let shared (identity : Nat) : Value :=
      .list [.hidden ⟨"conn", identity, default⟩, .time clock, .error "refused"]
    let a := shared 3
    let dated (t : LocalTime) : Value := .list [.time t, .error "refused"]
    a.NoFloat ∧ ClonesAgree a a ∧ a.equals a = true ∧ a.Numeric ∧ a.offsets = [⟨3600, by decide⟩] ∧
      a.display = "[conn 1970/01/01 01:00:00.000 refused]" ∧ a.jsonText = .error ⟨"conn"⟩ ∧
      a.equals (shared 4) = false ∧ (shared 4).display = a.display ∧
      (dated clock).equals (dated (.utc ⟨0, 0⟩)) = true ∧
      (dated clock).toJson ≠ (dated (.utc ⟨0, 0⟩)).toJson := by
  intro clock shared a dated
  have clear : a.NoFloat := by
    apply NoFloat.list
    simp only [List.forall_mem_cons, List.not_mem_nil, false_imp_iff, implies_true, and_true]
    exact ⟨⟨nofun, nofun⟩, ⟨nofun, nofun⟩, ⟨nofun, nofun⟩⟩
  -- The opaque item is the only one.
  have label : ∀ o, Within (.hidden o) a → o.label = "conn" := by
    intro o inside
    simp only [a, shared] at inside
    obtain _ | ⟨member, inside⟩ := inside
    simp only [List.mem_cons, List.not_mem_nil, or_false] at member
    rcases member with rfl | rfl | rfl <;> cases inside
    rfl
  have clones : ClonesAgree a a := fun o p left right _ => (label o left).trans (label p right).symm
  have zoned : a.InZone fun _ => ⟨3600, by decide⟩ := by
    intro t member
    have held : a.times = [clock] := by rfl
    obtain rfl : t = clock := by simpa [held] using member
    rfl
  obtain ⟨reflexive, numeric, symmetric, transitive, forms, told, zones⟩ := equality_respects_forms
  have same := transitive a a a (reflexive a clear) (symmetric a a (reflexive a clear))
  obtain ⟨text, json, -⟩ := forms a a clear clones same (zones _ a a zoned zoned same)
  have shown : a.display = "[conn 1970/01/01 01:00:00.000 refused]" := by decide +kernel
  have failed : a.jsonText = .error ⟨"conn"⟩ := by rfl
  have together : (dated clock).equals (dated (.utc ⟨0, 0⟩)) = true := by decide
  have documents : (dated clock).toJson ≠ (dated (.utc ⟨0, 0⟩)).toJson := by
    intro one
    obtain ⟨document, made⟩ : ∃ document, (dated clock).toJson = .ok document := exists_toJson rfl
    have offsets := told _ _ document together made (one.symm.trans made)
    cases offsets
  exact ⟨clear, clones, same, (numeric a).mp same, zoned.offsets, text.trans shown,
    json.trans failed, by decide, by decide +kernel, together, documents⟩

/-- One point in time, read from a clock in UTC and from one that is an hour ahead: the times are
equal, and each shows its own hour. And a double that is no number is not equal to its own copy. -/
theorem one_point_two_hours :
    let clock (offset : ZoneOffset) : Value := .time ⟨⟨1546428988, 0⟩, offset⟩
    let a := clock .utc
    let b := clock ⟨3600, by decide⟩
    a.NoFloat ∧ b.NoFloat ∧ ClonesAgree a b ∧ a.equals b = true ∧
      a.display = "2019/01/02 11:36:28.000" ∧ b.display = "2019/01/02 12:36:28.000" ∧
      a.jsonText ≠ b.jsonText ∧ a.toJson ≠ b.toJson ∧
      (Value.float .nan).equals (.float .nan) = false := by
  intro clock a b
  have early : a.display = "2019/01/02 11:36:28.000" := by decide +kernel
  have late : b.display = "2019/01/02 12:36:28.000" := by decide +kernel
  -- A time has its text for a document, and a document is told from others by its text.
  have documents : a.toJson ≠ b.toJson := by
    intro same
    have texts : a.display = b.display := by simpa [a, b, clock, toJson, display] using same
    simp [early, late] at texts
  have quoted : a.jsonText ≠ b.jsonText := by
    have early' : a.jsonText = .ok "\"2019/01/02 11:36:28.000\"" := by rfl
    have late' : b.jsonText = .ok "\"2019/01/02 12:36:28.000\"" := by rfl
    simp [early', late']
  exact ⟨.time _, .time _, .time _ _, by decide, early, late, quoted, documents, by decide⟩

/-- Both zeros are equal, and they are written differently. -/
example : let zero (bits : UInt64) : Value := .float ⟨bits⟩
    (zero 0).equals (zero 0x8000000000000000) = true ∧
      (zero 0).display = "0" ∧ (zero 0x8000000000000000).display = "-0" := by
  decide +kernel

end Value

end Tapline
