import Mathlib.Data.List.Infix
import Tapline.Proofs.Value.Parts
import Tapline.Value.Display
/-!
# The looser form drops nothing

A list or a map without a JSON form is shown by the texts of its parts, each between blanks. The
choice is made anew at every level: a part with a JSON form stands there in that form, a part
without one in the looser form again. So an opaque value is never lost in a text, however deep it
stands, for everything around it is in the looser form.

## Main result

`nothing_hidden_dropped`.

## Proof strategy

What holds an opaque part has no JSON form, and this goes for every level from the part up to the
whole. So at each of these levels the text of the level below is one of the texts between blanks.
-/

namespace Tapline

theorem infix_intercalate {separator part : String} {parts : List String} (member : part ∈ parts) :
    part.toList <:+: (separator.intercalate parts).toList := by
  induction parts with
  | nil => cases member
  | cons first rest ih =>
    cases rest with
    | nil =>
      obtain rfl : part = first := List.mem_singleton.mp member
      rw [String.intercalate_singleton]
    | cons next rest =>
      rw [String.intercalate_cons_cons, String.toList_append, String.toList_append]
      rcases List.mem_cons.mp member with rfl | later
      · rw [List.append_assoc]
        exact (List.prefix_append _ _).isInfix
      · exact (ih later).trans (List.suffix_append _ _).isInfix

namespace Value

/-! ### The form of a container -/

theorem looseItems_eq_intercalate (items : List Value) :
    looseItems items = " ".intercalate (items.map display) := by
  induction items with
  | nil => simp [looseItems]
  | cons item rest ih =>
    cases rest with
    | nil => simp [looseItems]
    | cons next rest => simp [looseItems, ih, String.intercalate_cons_cons]

theorem looseEntries_eq_intercalate (entries : List (String × Value)) :
    looseEntries entries =
      " ".intercalate (entries.map fun entry => entry.1 ++ ":" ++ entry.2.display) := by
  induction entries with
  | nil => simp [looseEntries]
  | cons entry rest ih =>
    obtain ⟨key, value⟩ := entry
    cases rest with
    | nil => simp [looseEntries]
    | cons next rest => simp [looseEntries, ih, String.intercalate_cons_cons]

theorem display_list_of_error {items : List Value} {e : EncodeError}
    (failed : jsonText (.list items) = .error e) :
    display (.list items) = "[" ++ " ".intercalate (items.map display) ++ "]" := by
  rw [jsonText] at failed
  rw [display]
  cases inside : jsonItems items with
  | ok text =>
    rw [inside] at failed
    cases failed
  | error e => rw [← looseItems_eq_intercalate]

theorem display_map_of_error {entries : List (String × Value)} {e : EncodeError}
    (failed : jsonText (.map entries) = .error e) :
    display (.map entries) = "\x7b" ++
      " ".intercalate (entries.map fun entry => entry.1 ++ ":" ++ entry.2.display) ++ "\x7d" := by
  rw [jsonText] at failed
  rw [display]
  cases inside : jsonEntries entries with
  | ok text =>
    rw [inside] at failed
    cases failed
  | error e => rw [← looseEntries_eq_intercalate]

/-! ### Opaque parts -/

theorem Within.trans {part between whole : Value} (inner : Within part between)
    (outer : Within between whole) : Within part whole := by
  induction outer with
  | here => exact inner
  | item member _ ih => exact .item member ih
  | entry member _ ih => exact .entry member ih

/-- What holds an opaque value has no JSON form. -/
theorem exists_error_of_within {o : Opaque} {v : Value} (inside : Within (.hidden o) v) :
    ∃ e, v.jsonText = .error e := by
  obtain ⟨first, found⟩ := Option.ne_none_iff_exists'.mp (firstHidden?_ne_none inside)
  refine ⟨⟨first.label⟩, ?_⟩
  rw [jsonText_eq_map_write, toJson_eq_error found]
  rfl

/-- The text of a part that holds an opaque value stands in the text of the whole. -/
theorem display_infix_of_within {o : Opaque} {part whole : Value}
    (inside : Within (.hidden o) part) (within : Within part whole) :
    part.display.toList <:+: whole.display.toList := by
  induction within with
  | here => exact List.infix_rfl
  -- The part that holds the opaque value is still within, so this level is in the looser form too.
  | @item item items member within ih =>
    obtain ⟨e, failed⟩ := exists_error_of_within (inside.trans (.item member within))
    have shown : item.display.toList <:+: (" ".intercalate (items.map display)).toList :=
      infix_intercalate (List.mem_map_of_mem member)
    rw [display_list_of_error failed, String.toList_append, String.toList_append]
    exact ih.trans (shown.trans (List.infix_append _ _ _))
  | @entry key value entries member within ih =>
    obtain ⟨e, failed⟩ := exists_error_of_within (inside.trans (.entry member within))
    have shown : (key ++ ":" ++ value.display).toList <:+: (" ".intercalate
        (entries.map fun entry => entry.1 ++ ":" ++ entry.2.display)).toList :=
      infix_intercalate (List.mem_map.mpr ⟨(key, value), member, rfl⟩)
    rw [String.toList_append] at shown
    rw [display_map_of_error failed, String.toList_append, String.toList_append]
    exact ih.trans ((List.suffix_append _ _).isInfix.trans
      (shown.trans (List.infix_append _ _ _)))

/-- **Nothing opaque is dropped.** The label of an opaque value stands in the text of every value
that holds it. A list without a JSON form is shown by the texts of its items in order, and a map by
each of its keys, a colon and the text of the value, with one blank from each to the next. -/
theorem nothing_hidden_dropped :
    (∀ (v : Value) (o : Opaque), Within (.hidden o) v → o.label.toList <:+: v.display.toList) ∧
    (∀ (items : List Value) (e : EncodeError), jsonText (.list items) = .error e →
      display (.list items) = "[" ++ " ".intercalate (items.map display) ++ "]") ∧
    (∀ (entries : List (String × Value)) (e : EncodeError), jsonText (.map entries) = .error e →
      display (.map entries) = "\x7b" ++
        " ".intercalate (entries.map fun entry => entry.1 ++ ":" ++ entry.2.display) ++ "\x7d") := by
  refine ⟨fun v o inside => ?_, fun _ _ => display_list_of_error, fun _ _ => display_map_of_error⟩
  have shown := display_infix_of_within .here inside
  rwa [display] at shown

/-- A list with an opaque item, in a map beside a list that has a JSON form. -/
theorem label_within_list_of_map :
    let conn : Opaque := ⟨"conn", 0, default⟩
    let items : List Value := [.text "a", .hidden conn, .null]
    let entries : List (String × Value) := [("k", .list items), ("l", .list [.text "b"])]
    Within (.hidden conn) (.map entries) ∧ jsonText (.list items) = .error ⟨"conn"⟩ ∧
      jsonText (.map entries) = .error ⟨"conn"⟩ ∧
      "conn".toList <:+: (display (.map entries)).toList ∧
      display (.map entries) = "\x7bk:[a conn ] l:[\x22b\x22]\x7d" := by
  intro conn items entries
  have inside : Within (.hidden conn) (.map entries) :=
    .entry List.mem_cons_self (.item (List.mem_cons_of_mem _ List.mem_cons_self) .here)
  have failed : jsonText (.list items) = .error ⟨"conn"⟩ := by rfl
  have failed' : jsonText (.map entries) = .error ⟨"conn"⟩ := by rfl
  obtain ⟨labels, lists, maps⟩ := nothing_hidden_dropped
  refine ⟨inside, failed, failed', labels _ conn inside, ?_⟩
  rw [maps entries _ failed']
  simp only [entries, List.map_cons, List.map_nil, lists items _ failed]
  decide +kernel

end Value

end Tapline
