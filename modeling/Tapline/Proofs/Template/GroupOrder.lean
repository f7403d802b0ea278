import Tapline.Proofs.Template.Group
import Tapline.Proofs.Template.Joining
/-!
# The order of a group

A group shows its fields by their keys, so the order of its functions counts only where two results
share a key, and there the last one stands. Whatever leaves the last result of each key in its
place leaves the text of the group alone, in the JSON form and in the loose form alike, also when
the result that no longer stands would have decided between the two.

## Main result

`group_forgets_order`, for every registry, every bag and every group body.

## Proof strategy

The text is a function of `Field.members`, and that map is determined by the last field of each key
(`members_eq_of_last`). A permutation of fields with distinct keys, and a field that comes again
later, leave the last field of each key as it is.
-/

namespace Tapline

namespace Field

/-- The fields of a key that are not skipped, in order. -/
def ofKey (key : String) (fields : List Field) : List Field :=
  fields.filter fun field => !field.skip && field.key == key

theorem mem_ofKey {key : String} {field : Field} {fields : List Field} :
    field ∈ ofKey key fields ↔ field ∈ fields ∧ field.skip = false ∧ field.key = key := by
  simp [ofKey]

theorem ofKey_append (key : String) (fields others : List Field) :
    ofKey key (fields ++ others) = ofKey key fields ++ ofKey key others := List.filter_append ..

theorem ofKey_cons (key : String) (field : Field) (fields : List Field) :
    ofKey key (field :: fields) =
      if field.skip = false ∧ field.key = key then field :: ofKey key fields
      else ofKey key fields := by
  simp [ofKey, List.filter_cons]

/-- Fields that end in the same one under each key form the same members. -/
theorem members_eq_of_last {fields others : List Field}
    (same : ∀ key, (ofKey key fields).getLast? = (ofKey key others).getLast?) :
    members fields = members others := by
  apply KeyMap.ext_get?
  intro key
  have last := same key
  unfold ofKey at last
  rw [get?_members, get?_members, last]

/-- Where the keys are distinct, at most one field has a given key. -/
theorem length_ofKey_le_one {fields : List Field}
    (distinct : ((fields.filter fun field => !field.skip).map Field.key).Nodup) (key : String) :
    (ofKey key fields).length ≤ 1 := by
  have part : ofKey key fields =
      (fields.filter fun field => !field.skip).filter fun field => field.key == key := by
    simp only [ofKey, List.filter_filter, Bool.and_comm]
  have once : ((ofKey key fields).map Field.key).Nodup := by
    rw [part]
    exact distinct.sublist (List.filter_sublist.map Field.key)
  -- All of them have this key, so a second one would repeat it.
  have constant : (ofKey key fields).map Field.key = List.replicate (ofKey key fields).length key := by
    apply List.eq_replicate_iff.mpr
    refine ⟨List.length_map _, fun k member => ?_⟩
    obtain ⟨field, inside, rfl⟩ := List.mem_map.mp member
    exact (mem_ofKey.mp inside).2.2
  rw [constant] at once
  exact List.nodup_replicate.mp once

theorem members_perm {fields others : List Field} (perm : fields.Perm others)
    (distinct : ((fields.filter fun field => !field.skip).map Field.key).Nodup) :
    members fields = members others := by
  apply members_eq_of_last
  intro key
  have permuted : (ofKey key fields).Perm (ofKey key others) := perm.filter _
  -- A permutation of at most one field moves nothing.
  match alone : ofKey key fields, length_ofKey_le_one distinct key with
  | [], _ =>
    rw [alone] at permuted
    rw [← permuted.nil_eq]
  | [field], _ =>
    rw [alone] at permuted
    rw [List.singleton_perm.mp permuted]

/-- A field that comes again later is of no account. -/
theorem members_of_later {field : Field} {newer : List Field} (later : field ∈ newer)
    (older : List Field) : members (older ++ field :: newer) = members (older ++ newer) := by
  apply members_eq_of_last
  intro key
  rw [ofKey_append, ofKey_append, ofKey_cons]
  split
  next shown =>
    -- The later one has the same key, so the last field of the key is among the newer ones.
    have inside : field ∈ ofKey key newer := mem_ofKey.mpr ⟨later, shown⟩
    obtain ⟨first, rest, split⟩ := List.exists_cons_of_ne_nil (List.ne_nil_of_mem inside)
    simp [split, List.getLast?_cons]
  · rfl

/-! ### The two forms -/

theorem groupText_of_clear {fields : List Field}
    (clear : ∀ entry ∈ (members fields).entries, ∀ o, ¬ Value.Within (.hidden o) entry.2) :
    ∃ documents, List.Forall₂ (fun entry member => entry.1 = member.1 ∧
        entry.2.toJson = .ok member.2) (members fields).entries documents ∧
      (groupText fields).value = Json.write (.object documents) := by
  obtain ⟨documents, made⟩ :=
    Value.exists_toJsonEntries (Value.firstHiddenBinding?_eq_none_iff_within.mpr clear)
  exact ⟨documents, Value.toJsonEntries_eq_ok_iff.mp made, groupText_of_document made⟩

theorem groupText_of_within {fields : List Field}
    (found : ∃ entry ∈ (members fields).entries, ∃ o, Value.Within (.hidden o) entry.2) :
    (groupText fields).value = Text.inline ("\x7b" ++
      " ".intercalate ((members fields).entries.map fun entry => entry.1 ++ ":" ++ entry.2.display) ++
      "\x7d") := by
  obtain ⟨entry, member, o, inside⟩ := found
  have some : Value.firstHiddenBinding? (members fields).entries ≠ none := fun none =>
    Value.firstHiddenBinding?_eq_none_iff_within.mp none entry member o inside
  obtain ⟨first, met⟩ := Option.ne_none_iff_exists'.mp some
  rw [groupText_of_hidden met, Value.looseMap, Value.looseEntries_eq_intercalate]

end Field

section Body

variable (registry : Registry) (bag : Bag)

/-- The fields of a group body, in its order. -/
def bodyFields (body : List Char) : List Field :=
  (body.filterMap registry.get?).map fun f => (Probe.field (f bag)).value

/-- The text of the group that a body is compiled to. -/
def bodyGroup (body : List Char) : String :=
  ((Piece.bind registry (.group body)).text bag).value

theorem bodyGroup_eq (body : List Char) :
    bodyGroup registry bag body = (Field.groupText (bodyFields registry bag body)).value := by
  simp only [bodyGroup, Piece.bind, Segment.text, groupFields_value, bodyFields]

theorem bodyFields_append (before after : List Char) :
    bodyFields registry bag (before ++ after) =
      bodyFields registry bag before ++ bodyFields registry bag after := by
  simp only [bodyFields, List.filterMap_append, List.map_append]

variable {registry bag}

theorem bodyFields_cons_of_unknown {c : Char} (unknown : registry.contains c = false)
    (body : List Char) : bodyFields registry bag (c :: body) = bodyFields registry bag body := by
  have missing : registry.get? c = none := by
    simpa only [Registry.contains, Option.isSome_eq_false_iff, Option.isNone_iff_eq_none]
      using unknown
  simp only [bodyFields, List.filterMap_cons, missing]

theorem bodyFields_cons_of_get? {c : Char} {f : FieldFunction} (found : registry.get? c = some f)
    (body : List Char) :
    bodyFields registry bag (c :: body) =
      (Probe.field (f bag)).value :: bodyFields registry bag body := by
  simp only [bodyFields, List.filterMap_cons, found, List.map_cons]

theorem mem_bodyFields {c : Char} {f : FieldFunction} (found : registry.get? c = some f)
    {body : List Char} (member : c ∈ body) :
    (Probe.field (f bag)).value ∈ bodyFields registry bag body :=
  List.mem_map_of_mem (List.mem_filterMap.mpr ⟨c, member, found⟩)

/-- A registered character that comes again later adds a field that comes again later. -/
theorem members_bodyFields_of_later {c : Char} {after : List Char} (later : c ∈ after)
    (before : List Char) :
    Field.members (bodyFields registry bag (before ++ c :: after)) =
      Field.members (bodyFields registry bag (before ++ after)) := by
  simp only [bodyFields_append]
  cases found : registry.get? c with
  | none =>
    rw [bodyFields_cons_of_unknown (by simp [Registry.contains, found])]
  | some f =>
    rw [bodyFields_cons_of_get? found, Field.members_of_later (mem_bodyFields found later)]

end Body

namespace Template

/-- A body in braces behind `%J` is cut as a group, whatever follows. -/
theorem pieces_group {registry : Registry} (free : registry.contains reservedKey = false)
    {body : List Char} (closed : '\x7d' ∉ body) (back : String) :
    pieces registry ("%J\x7b" ++ String.ofList body ++ "\x7d" ++ back) =
      .group body :: pieces registry back := by
  have text : ("%J\x7b" ++ String.ofList body ++ "\x7d" ++ back).toList =
      '%' :: (reservedKey :: '\x7b' :: (body ++ '\x7d' :: back.toList)) := by
    simp [reservedKey]
  have found : Piece.ofSpecifier? registry.contains
      (reservedKey :: '\x7b' :: (body ++ '\x7d' :: back.toList)) =
        some (.group body, back.toList) := by
    refine (Piece.ofSpecifier?_eq_some_iff free _ _ _).mpr ⟨closed, ?_⟩
    simp [Piece.source]
  rw [pieces, text, Piece.scan_specifier found, pieces]

/-- **A group does not depend on the order of its functions,** except through keys that come twice.
In a template a body in braces adds `bodyGroup` to the line. Permuting a body leaves that text
alone when the fields that are not skipped have distinct keys; a character that is not registered,
or one that comes again later, adds nothing; and under each key stands the value of the last field
that has it, in the JSON form as well as in the loose one. -/
theorem group_forgets_order (registry : Registry) (bag : Bag) :
    let text := bodyGroup registry bag
    let fields := bodyFields registry bag
    (registry.contains reservedKey = false → ∀ (front : String) (body : List Char) (back : String),
      Piece.Settled front.toList → '\x7d' ∉ body →
      ∃ first second whole, compile front registry = .ok first ∧
        compile back registry = .ok second ∧
        compile (front ++ ("%J\x7b" ++ String.ofList body ++ "\x7d" ++ back)) registry = .ok whole ∧
        ∃ start, (first.line bag).value = start ++ "\n" ∧
          (whole.line bag).value = start ++ text body ++ (second.line bag).value) ∧
    (∀ body permuted : List Char, body.Perm permuted →
      (((fields body).filter fun field => !field.skip).map Field.key).Nodup →
      text permuted = text body) ∧
    (∀ before c after, registry.contains c = false →
      text (before ++ c :: after) = text (before ++ after)) ∧
    (∀ before c after, c ∈ after → text (before ++ c :: after) = text (before ++ after)) ∧
    ∀ body, ∃ shown : KeyMap Value,
      (∀ key, shown.get? key = (Field.ofKey key (fields body)).getLast?.map Field.value) ∧
      ((∀ entry ∈ shown.entries, ∀ o, ¬ Value.Within (.hidden o) entry.2) →
        ∃ documents, List.Forall₂ (fun entry member => entry.1 = member.1 ∧
            entry.2.toJson = .ok member.2) shown.entries documents ∧
          text body = Json.write (.object documents)) ∧
      ((∃ entry ∈ shown.entries, ∃ o, Value.Within (.hidden o) entry.2) →
        text body = Text.inline ("\x7b" ++
          " ".intercalate (shown.entries.map fun entry => entry.1 ++ ":" ++ entry.2.display) ++
          "\x7d")) := by
  intro text fields
  -- The text hangs on the members alone.
  have of_members {body other : List Char}
      (same : Field.members (fields body) = Field.members (fields other)) :
      text body = text other := by
    simp only [text, bodyGroup_eq, Field.groupText]
    rw [show Field.members (bodyFields registry bag body) =
      Field.members (bodyFields registry bag other) from same]
  refine ⟨?_, ?_, ?_, ?_, ?_⟩
  · intro free front body back settled closed
    refine ⟨_, _, _, compile_of_free free front, compile_of_free free back,
      compile_of_free free _, _, rfl, ?_⟩
    simp only [line, bodyText_pieces_append free settled, pieces_group free closed, List.map_cons,
      bodyText]
    simp only [text, bodyGroup, String.append_assoc]
  · intro body permuted perm distinct
    refine (of_members (Field.members_perm ?_ distinct)).symm
    exact (perm.filterMap registry.get?).map _
  · intro before c after unknown
    refine of_members ?_
    simp only [fields, bodyFields_append, bodyFields_cons_of_unknown unknown]
  · intro before c after later
    exact of_members (members_bodyFields_of_later later before)
  · intro body
    refine ⟨Field.members (fields body), Field.get?_members _, fun clear => ?_, fun found => ?_⟩
    · obtain ⟨documents, related, written⟩ := Field.groupText_of_clear clear
      exact ⟨documents, related, (bodyGroup_eq registry bag body).trans written⟩
    · exact (bodyGroup_eq registry bag body).trans (Field.groupText_of_within found)

/-- Two functions share a key, and one of them gives an opaque value: which of them comes last
decides about the form of the group. -/
theorem group_of_shared_key :
    let registry := ((Registry.empty.insert 'a' (.constant "k" (.text "x"))).insert 'b'
      (.constant "n" (.int 1))).insert 'c' (.constant "k" (.hidden ⟨"conn", 0, default⟩))
    let text := bodyGroup registry ∅
    (∃ whole, compile ("p " ++ ("%J\x7b" ++ String.ofList ['c', 'b', 'a'] ++ "\x7d" ++ "!")) registry =
      .ok whole ∧ (whole.line ∅).value = "p \x7b\x22k\x22:\x22x\x22,\x22n\x22:1\x7d!\n") ∧
    text ['b', 'a'] = text ['a', 'b'] ∧ text ['a', '?', 'b'] = text ['a', 'b'] ∧
    text ['b', 'a', 'b'] = text ['a', 'b'] ∧ text ['a', 'b', 'c'] = "\x7bk:conn n:1\x7d" := by
  intro registry text
  obtain ⟨adds, permuted, unknown, later, last⟩ := group_forgets_order registry ∅
  refine ⟨?_, ?_, ?_, ?_, ?_⟩
  · have settled : Piece.Settled "p ".toList := by
      refine ⟨by decide, by decide, fun after inside => ?_⟩
      simp [List.suffix_cons_iff] at inside
    obtain ⟨first, second, whole, compiled, compiled', both, start, ended, joined⟩ :=
      adds (by decide) "p " ['c', 'b', 'a'] "!" settled (by decide)
    obtain ⟨-, rfl⟩ := compile_eq_ok_iff.mp compiled
    obtain ⟨-, rfl⟩ := compile_eq_ok_iff.mp compiled'
    have front : (line ⟨"p ", (pieces registry "p ").map (Piece.bind registry)⟩ ∅).value =
        "p " ++ "\n" := by decide +kernel
    refine ⟨whole, both, ?_⟩
    rw [joined, (String.append_left_inj _).mp (ended.symm.trans front)]
    decide +kernel
  · exact permuted ['a', 'b'] ['b', 'a'] (.swap 'b' 'a' []) (by decide)
  · exact unknown ['a'] '?' ['b'] (by decide)
  · exact later [] 'b' ['a', 'b'] (by decide)
  · obtain ⟨shown, bound, -, loose⟩ := last ['a', 'b', 'c']
    obtain rfl : shown = Field.members (bodyFields registry ∅ ['a', 'b', 'c']) :=
      KeyMap.ext_get? fun key => (bound key).trans (Field.get?_members _ key).symm
    have found : ∃ entry ∈ (Field.members (bodyFields registry ∅ ['a', 'b', 'c'])).entries,
        ∃ o, Value.Within (.hidden o) entry.2 :=
      ⟨("k", .hidden ⟨"conn", 0, default⟩), List.mem_cons_self, _, .here⟩
    exact (loose found).trans (by decide +kernel)

end Template

end Tapline
