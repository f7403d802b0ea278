import Tapline.Field.Standard
import Tapline.Proofs.Template.Cut
import Tapline.Proofs.Template.Pool
/-!
# What a line depends on

A field function of the standard registry looks at one argument. A template calls the functions of
the characters that it names, in calls and in groups, and no others. So two bags that agree on the
arguments of the standard fields that a template names have the same line, with the same notices,
whatever else they hold.

## Main result

`line_of_named_arguments`, for every template text over the standard registry.

## Proof strategy

Agreement is carried up one level at a time: from the argument to the shape that reads it
(`StandardShape.function_congr`), from the functions to a segment (`Piece.text_bind_congr`), and
from the segments to the body (`bodyText_congr`). Which functions a segment calls is read off the
piece that it was bound from.
-/

namespace Tapline

/-- Two bags bind some names alike: both leave a name free, or both bind it to the same value. -/
def Bag.Agree (names : String → Prop) (bag bag' : Bag) : Prop :=
  ∀ name, names name → bag.get? name = bag'.get? name

variable {bag bag' : Bag}

/-! ### Shapes -/

/-- Every shape reads its own argument and nothing else. -/
theorem StandardShape.function_congr (shape : StandardShape) {name : String}
    (agree : bag.get? name = bag'.get? name) :
    shape.function name bag = shape.function name bag' := by
  cases shape with
  | text => simp only [function, FieldFunction.text, FieldFunction.ofPure, Bag.text, agree]
  | optionalText =>
    simp only [function, FieldFunction.optionalText, FieldFunction.ofPure, Bag.text, agree]
  | value => simp only [function, FieldFunction.value, FieldFunction.ofPure, agree]
  | time => simp only [function, FieldFunction.plainTime, FieldFunction.ofPure, Bag.time?, agree]
  | duration =>
    simp only [function, FieldFunction.duration, FieldFunction.ofPure, Bag.duration?, agree]
  | error => simp only [function, FieldFunction.error, FieldFunction.ofPure, Bag.error?, agree]

/-! ### The standard registry -/

/-- Naming the functions of some fields adds no others. -/
theorem exists_field_of_get? {fields : List StandardField} {registry : Registry} {key : Char}
    {f : FieldFunction}
    (found : (fields.foldl (fun registry field =>
      registry.insert field.key (field.shape.function field.name)) registry).get? key = some f) :
    (∃ field ∈ fields, field.key = key ∧ f = field.shape.function field.name) ∨
      registry.get? key = some f := by
  induction fields generalizing registry with
  | nil => exact Or.inr found
  | cons field rest ih =>
    -- A later field may claim the same character, and then it is the one that is found.
    rcases ih found with ⟨other, member, named⟩ | earlier
    · exact Or.inl ⟨other, List.mem_cons_of_mem field member, named⟩
    · rw [Registry.get?_insert] at earlier
      split at earlier
      next same => exact Or.inl ⟨field, List.mem_cons_self, same.symm, (Option.some.inj earlier).symm⟩
      next => exact Or.inr earlier

theorem Registry.exists_field_of_standard {key : Char} {f : FieldFunction}
    (found : Registry.standard.get? key = some f) :
    ∃ field ∈ standardFields, field.key = key ∧ f = field.shape.function field.name := by
  rcases exists_field_of_get? found with named | nothing
  · exact named
  · cases nothing

/-- No standard field claims the character that groups begin with. -/
theorem Registry.standard_free : Registry.standard.contains reservedKey = false := by
  rw [Registry.contains, Option.isSome_eq_false_iff, Option.isNone_iff_eq_none]
  by_contra claimed
  obtain ⟨f, found⟩ := Option.ne_none_iff_exists'.mp claimed
  obtain ⟨field, member, reserved, -⟩ := exists_field_of_standard found
  have other : ∀ field ∈ standardFields, field.key ≠ reservedKey := by decide
  exact other field member reserved

/-! ### Segments -/

/-- The characters whose functions a piece calls, if they have any. -/
def Piece.named : Piece → List Char
  | literal _ => []
  | call key => [key]
  | group body => body

theorem groupFields_congr {functions : List FieldFunction}
    (alike : ∀ f ∈ functions, f bag = f bag') :
    groupFields functions bag = groupFields functions bag' := by
  induction functions with
  | nil => rfl
  | cons f rest ih =>
    have first : f bag = f bag' := alike f List.mem_cons_self
    have others := ih fun g member => alike g (List.mem_cons_of_mem f member)
    simp only [groupFields, first, others]

/-- A segment tells two bags apart only by a function that its piece names. -/
theorem Piece.text_bind_congr {registry : Registry} {piece : Piece}
    (alike : ∀ key ∈ piece.named, ∀ f, registry.get? key = some f → f bag = f bag') :
    (piece.bind registry).text bag = (piece.bind registry).text bag' := by
  cases piece with
  | literal text => rfl
  | call key =>
    rw [Piece.bind]
    cases found : registry.get? key with
    | none => rfl
    | some f =>
      have same : f bag = f bag' := alike key List.mem_cons_self f found
      simp only [Segment.text, same]
  | group body =>
    have same : groupFields (body.filterMap registry.get?) bag =
        groupFields (body.filterMap registry.get?) bag' := by
      apply groupFields_congr
      intro f member
      obtain ⟨key, inside, found⟩ := List.mem_filterMap.mp member
      exact alike key inside f found
    simp only [Piece.bind, Segment.text, same]

theorem bodyText_congr {segments : List Segment}
    (alike : ∀ segment ∈ segments, segment.text bag = segment.text bag') :
    bodyText segments bag = bodyText segments bag' := by
  induction segments with
  | nil => rfl
  | cons segment rest ih =>
    have first := alike segment List.mem_cons_self
    have others := ih fun other member => alike other (List.mem_cons_of_mem segment member)
    simp only [bodyText, first, others]

/-! ### Templates -/

/-- A template text names a character: in the way it is cut, a call or a group holds it. -/
def Template.Names (registry : Registry) (source : String) (key : Char) : Prop :=
  ∃ pieces, Piece.IsCut registry.contains source.toList pieces ∧
    ∃ piece ∈ pieces, key ∈ piece.named

/-- **Only named arguments count.** Over the standard registry every template text compiles, and two
bags that agree on the arguments of the standard fields that it names have one line and one list of
notices between them. The line is the same also if one bag's is built in the thread's buffer and the
other's in a fresh text, whatever the buffers hold. -/
theorem Template.line_of_named_arguments (source : String) :
    ∃ t, Template.compile source .standard = .ok t ∧
      ∀ bag bag' : Bag,
        bag.Agree (fun name => ∃ field ∈ standardFields,
          field.name = name ∧ Template.Names .standard source field.key) bag' →
        t.line bag = t.line bag' ∧
          ∀ pool pool', (t.withLine bag pool id).value = (t.withLine bag' pool' id).value ∧
            (t.buildText bag pool).value = (t.withLine bag' pool' id).value := by
  have free := Registry.standard_free
  let t : Template := ⟨source, (pieces .standard source).map (Piece.bind .standard)⟩
  have compiled : compile source .standard = .ok t := by simp [t, compile, free]
  refine ⟨t, compiled, ?_⟩
  intro bag bag' agree
  have cut : Piece.IsCut Registry.standard.contains source.toList (pieces .standard source) :=
    Piece.scan_isCut free source.toList
  have same : bodyText t.segments bag = bodyText t.segments bag' := by
    apply bodyText_congr
    intro segment member
    obtain ⟨piece, inside, rfl⟩ := List.mem_map.mp member
    apply Piece.text_bind_congr
    intro key named f found
    -- The function belongs to a field whose character the template names.
    obtain ⟨field, standard, rfl, rfl⟩ := Registry.exists_field_of_standard found
    apply field.shape.function_congr
    exact agree field.name ⟨field, standard, rfl, pieces .standard source, cut, piece, inside, named⟩
  have lines : t.line bag = t.line bag' := by simp only [line, same]
  refine ⟨lines, fun pool pool' => ?_⟩
  rw [withLine_value, withLine_value, buildText_value, lines]
  exact ⟨rfl, rfl⟩

/-- A call and a group name three arguments. A statement and a password, which one of the bags holds
besides, are nowhere in the line. -/
theorem Template.line_without_password :
    let source := "%u %J\x7bke\x7d"
    let bag : Bag := KeyMap.ofList [("uuid", .text "r1"), ("key", .int 3),
      ("sql", .text "select"), ("password", .text "secret")]
    let bag' : Bag := KeyMap.ofList [("key", .int 3), ("uuid", .text "r1")]
    bag.Agree (fun name => ∃ field ∈ standardFields,
      field.name = name ∧ Template.Names .standard source field.key) bag' ∧
    ∃ t, Template.compile source .standard = .ok t ∧ t.line bag = t.line bag' ∧
      (t.line bag).value = "r1 \x7b\x22key\x22:3\x7d\n" := by
  intro source bag bag'
  have pieces : Piece.scan Registry.standard.contains source.toList =
      [.call 'u', .literal [' '], .group ['k', 'e']] := by decide +kernel
  have agree : bag.Agree (fun name => ∃ field ∈ standardFields,
      field.name = name ∧ Template.Names .standard source field.key) bag' := by
    rintro name ⟨field, standard, rfl, cut, isCut, piece, member, named⟩
    -- There is one cut, so the names can be read off it.
    obtain rfl := (Piece.isCut_iff Registry.standard_free source.toList cut).mp isCut
    rw [pieces] at member
    have key : field.key ∈ ['u', 'k', 'e'] := by
      simp only [List.mem_cons, List.not_mem_nil, or_false] at member
      rcases member with rfl | rfl | rfl
      · exact List.mem_of_mem_take (i := 1) named
      · cases named
      · exact List.mem_cons_of_mem 'u' named
    have name : ∀ field ∈ standardFields, field.key ∈ ['u', 'k', 'e'] →
        field.name ∈ ["uuid", "key", "error"] := by decide
    have known : ∀ name ∈ ["uuid", "key", "error"], bag.get? name = bag'.get? name := by
      simp only [List.forall_mem_cons]
      exact ⟨rfl, rfl, rfl, nofun⟩
    exact known field.name (name field standard key)
  obtain ⟨t, compiled, only⟩ := Template.line_of_named_arguments source
  have lines := (only bag bag' agree).1
  refine ⟨agree, t, compiled, lines, ?_⟩
  obtain rfl : ⟨source, (Template.pieces .standard source).map (Piece.bind .standard)⟩ = t := by
    simpa [Template.compile, Registry.standard_free] using compiled
  rw [lines, Template.line, Template.pieces, pieces]
  decide +kernel

end Tapline
