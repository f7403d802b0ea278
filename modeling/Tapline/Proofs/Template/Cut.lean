import Mathlib.Data.List.Chain
import Mathlib.Data.List.Forall2
import Mathlib.Data.List.TakeWhile
import Tapline.Template.Compile
/-!
# Compiling a template is exact

A cut of a template text is a list of pieces that the text is made of, in which no literal can be
split, joined with a neighbour, or read as a specifier. For a registry that leaves the reserved
character alone every text has exactly one cut, and compiling binds the pieces of that cut.

## Main result

`compile_exact`: a registry that claims the reserved character is refused for every text; any
other registry cuts every text in exactly one way, and the segments of the compiled template are
the pieces of the cut, bound one by one.

## Proof strategy

What begins at a percent sign is decided by the characters behind it, and `ofSpecifier?` decides
it: `ofSpecifier?_eq_some_iff` and `isSome_ofSpecifier?`. So the first piece of a cut is forced,
either a specifier (`isCut_specifier`) or a literal that the first character belongs to
(`isCut_consLiteral`). The scanner makes the same choice at each character, and `isCut_iff` follows
by induction along the scan.
-/

namespace Tapline

namespace Piece

/-- Whether a piece is literal text. -/
def isLiteral : Piece → Bool
  | literal _ => true
  | _ => false

/-- What follows a percent sign makes it the beginning of a specifier: a registered character, or
`J` and an opening brace with a closing one somewhere behind. -/
def Begins (known : Char → Bool) (after : List Char) : Prop :=
  (∃ key rest, after = key :: rest ∧ known key = true) ∨
  (∃ rest, after = reservedKey :: '\x7b' :: rest ∧ '\x7d' ∈ rest)

/-- The pieces of a text, where some characters are registered. -/
structure IsCut (known : Char → Bool) (text : List Char) (pieces : List Piece) : Prop where
  joined : pieces.flatMap source = text
  inhabited : ∀ s, literal s ∈ pieces → s ≠ []
  apart : pieces.IsChain fun left right => ¬(left.isLiteral = true ∧ right.isLiteral = true)
  registered : ∀ key, call key ∈ pieces → known key = true
  closed : ∀ body, group body ∈ pieces → '\x7d' ∉ body
  /-- No literal covers a percent sign at which a specifier begins in the text. -/
  literally : ∀ before s later, pieces = before ++ literal s :: later →
    ∀ front back, s = front ++ '%' :: back → ¬Begins known (back ++ later.flatMap source)

/-- How a piece becomes a segment. A call becomes the call of the function registered for its
character; a group becomes the functions of its characters in order, where a character that has
none is dropped and one that comes twice counts twice. -/
inductive Binds (registry : Registry) : Piece → Segment → Prop
  | literal (s) : Binds registry (literal s) (.literal (String.ofList s))
  | call {key f} : registry.get? key = some f → Binds registry (call key) (.call f)
  | group (body) : Binds registry (group body) (.group (body.filterMap registry.get?))

/-! ### What begins at a percent sign -/

/-- A specifier as a cut may hold it. -/
def Specifies (known : Char → Bool) : Piece → Prop
  | literal _ => False
  | call key => known key = true
  | group body => '\x7d' ∉ body

/-- Splitting a text at the first of some character is exact. -/
theorem split_at_first_iff (mark : Char) (text front back : List Char) :
    (mark ∈ text ∧ text.takeWhile (· != mark) = front ∧
      (text.dropWhile (· != mark)).tail = back) ↔
    mark ∉ front ∧ text = front ++ mark :: back := by
  constructor
  · rintro ⟨member, rfl, rfl⟩
    refine ⟨fun inside => by simpa using List.mem_takeWhile_imp inside, ?_⟩
    -- The mark is in the text, so something is left from it on, and it comes first there.
    obtain ⟨c, rest, remains⟩ : ∃ c rest, text.dropWhile (· != mark) = c :: rest := by
      refine List.exists_cons_of_ne_nil fun nothing => ?_
      simpa using List.dropWhile_eq_nil_iff.mp nothing mark member
    have first : c = mark := by
      have stopped := List.head?_dropWhile_not (· != mark) text
      simpa [remains] using stopped
    have whole := List.takeWhile_append_dropWhile (p := (· != mark)) (l := text)
    rw [remains, first] at whole
    rw [remains, List.tail_cons, whole]
  · rintro ⟨outside, rfl⟩
    have before : ∀ c ∈ front, (c != mark) = true := by
      intro c member
      simpa using fun same : c = mark => outside (same ▸ member)
    simp [List.takeWhile_append_of_pos before, List.dropWhile_append_of_pos before]

/-- Reading a specifier is exact: it finds the only piece that can begin there. -/
theorem ofSpecifier?_eq_some_iff {known : Char → Bool} (free : known reservedKey = false)
    (after rest : List Char) (piece : Piece) :
    ofSpecifier? known after = some (piece, rest) ↔
      Specifies known piece ∧ '%' :: after = piece.source ++ rest := by
  constructor
  · intro found
    cases after with
    | nil => simp [ofSpecifier?] at found
    | cons key tail =>
      rw [ofSpecifier?] at found
      split at found
      -- `J` and an opening brace: a group, if there is a closing brace behind.
      next opened =>
        simp only at found
        split at found
        next inside =>
          simp only [Option.some.injEq, Prod.mk.injEq] at found
          obtain ⟨rfl, rfl⟩ := found
          obtain ⟨rfl, brace⟩ := opened
          obtain ⟨text, rfl⟩ := List.head?_eq_some_iff.mp brace
          have cut := (split_at_first_iff '\x7d' text _ _).mp ⟨inside, rfl, rfl⟩
          refine ⟨cut.1, ?_⟩
          simpa [source] using cut.2
        · cases found
      · split at found
        -- Any other character: a call, if it is registered.
        next registered =>
          simp only [Option.some.injEq, Prod.mk.injEq] at found
          obtain ⟨rfl, rfl⟩ := found
          exact ⟨registered, rfl⟩
        · cases found
  · rintro ⟨specifies, same⟩
    cases piece with
    | literal s => exact specifies.elim
    | call key =>
      simp only [source, List.cons_append, List.nil_append, List.cons.injEq, true_and] at same
      subst same
      -- The reserved character has no function, so the key is not the beginning of a group.
      have other : key ≠ reservedKey := by
        rintro rfl
        rw [show known reservedKey = true from specifies] at free
        cases free
      simp [ofSpecifier?, other, show known key = true from specifies]
    | group body =>
      simp only [source, List.cons_append, List.cons.injEq, true_and, List.append_assoc,
        List.nil_append] at same
      subst same
      obtain ⟨inside, front, back⟩ := (split_at_first_iff '\x7d' _ body rest).mpr ⟨specifies, rfl⟩
      simp [ofSpecifier?, front, back]

theorem isSome_ofSpecifier? {known : Char → Bool} (free : known reservedKey = false)
    (after : List Char) : (ofSpecifier? known after).isSome = true ↔ Begins known after := by
  constructor
  · intro found
    obtain ⟨⟨piece, rest⟩, found⟩ := Option.isSome_iff_exists.mp found
    obtain ⟨specifies, same⟩ := (ofSpecifier?_eq_some_iff free after rest piece).mp found
    cases piece with
    | literal s => exact specifies.elim
    | call key => exact Or.inl ⟨key, rest, by simpa [source] using same, specifies⟩
    | group body =>
      exact Or.inr ⟨body ++ '\x7d' :: rest, by simpa [source] using same, by simp⟩
  · rintro (⟨key, rest, rfl, registered⟩ | ⟨text, rfl, inside⟩)
    · have found :=
        (ofSpecifier?_eq_some_iff free (key :: rest) rest (call key)).mpr ⟨registered, rfl⟩
      simp [found]
    · simp [ofSpecifier?, inside]

/-! ### The first piece of a cut -/

/-- A cut of a first piece and the others, piece by piece. -/
theorem isCut_cons {known : Char → Bool} {text : List Char} {piece : Piece} {pieces : List Piece} :
    IsCut known text (piece :: pieces) ↔ ∃ rest, text = piece.source ++ rest ∧
      IsCut known rest pieces ∧ (Specifies known piece ∨ ∃ s, piece = literal s ∧ s ≠ [] ∧
        (∀ next ∈ pieces.head?, next.isLiteral = false) ∧
        ∀ front back, s = front ++ '%' :: back → ¬Begins known (back ++ rest)) := by
  constructor
  · intro cut
    -- Without its first piece a cut is one of the text behind that piece.
    refine ⟨pieces.flatMap source, by simpa using cut.joined.symm, ⟨rfl, ?_, ?_, ?_, ?_, ?_⟩, ?_⟩
    · exact fun s member => cut.inhabited s (List.mem_cons_of_mem _ member)
    · exact cut.apart.tail
    · exact fun key member => cut.registered key (List.mem_cons_of_mem _ member)
    · exact fun body member => cut.closed body (List.mem_cons_of_mem _ member)
    · intro before s later same
      exact cut.literally (piece :: before) s later (by rw [same, List.cons_append])
    · cases piece with
      | literal s =>
        refine Or.inr ⟨s, rfl, cut.inhabited s List.mem_cons_self, ?_,
          cut.literally [] s pieces rfl⟩
        intro next first
        cases pieces with
        | nil => simp at first
        | cons other others =>
          obtain rfl : other = next := by simpa using first
          have apart := (List.isChain_cons_cons.mp cut.apart).1
          simpa [isLiteral] using apart
      | call key => exact Or.inl (cut.registered key List.mem_cons_self)
      | group body => exact Or.inl (cut.closed body List.mem_cons_self)
  · -- A piece that may stand before a cut makes a longer cut, clause by clause.
    rintro ⟨rest, rfl, cut, first⟩
    refine ⟨by simp [cut.joined], ?_, ?_, ?_, ?_, ?_⟩
    · intro s member
      rcases List.mem_cons.mp member with rfl | later
      · rcases first with specifies | ⟨t, same, inhabited, _⟩
        · exact specifies.elim
        · cases same
          exact inhabited
      · exact cut.inhabited s later
    · cases pieces with
      | nil => exact List.IsChain.singleton _
      | cons next others =>
        refine List.isChain_cons_cons.mpr ⟨?_, cut.apart⟩
        rintro ⟨left, right⟩
        rcases first with specifies | ⟨s, rfl, _, apart, _⟩
        · cases piece with
          | literal s => exact specifies
          | call key => cases left
          | group body => cases left
        · rw [apart next (by simp)] at right
          cases right
    · intro key member
      rcases List.mem_cons.mp member with rfl | later
      · rcases first with specifies | ⟨t, same, _⟩
        · exact specifies
        · cases same
      · exact cut.registered key later
    · intro body member
      rcases List.mem_cons.mp member with rfl | later
      · rcases first with specifies | ⟨t, same, _⟩
        · exact specifies
        · cases same
      · exact cut.closed body later
    · intro before s later same
      cases before with
      | nil =>
        obtain ⟨rfl, rfl⟩ := List.cons.inj same
        rcases first with specifies | ⟨t, same, _, _, literally⟩
        · exact specifies.elim
        · cases same
          rwa [cut.joined]
      | cons other others =>
        exact cut.literally others s later (List.cons.inj same).2

theorem isCut_nil {known : Char → Bool} {pieces : List Piece} :
    IsCut known [] pieces ↔ pieces = [] := by
  constructor
  · intro cut
    cases pieces with
    | nil => rfl
    | cons piece pieces =>
      obtain ⟨rest, same, _, first⟩ := isCut_cons.mp cut
      -- No piece of a cut is without text.
      obtain ⟨sourceless, rfl⟩ := List.append_eq_nil_iff.mp same.symm
      cases piece with
      | literal s =>
        rcases first with specifies | ⟨t, same, inhabited, _⟩
        · exact specifies.elim
        · cases same
          exact absurd sourceless inhabited
      | call key => cases sourceless
      | group body => cases sourceless
  · rintro rfl
    exact ⟨rfl, by simp, List.IsChain.nil, by simp, by simp, by simp⟩

/-- A specifier in front is a piece of every cut. -/
theorem isCut_specifier {known : Char → Bool} (free : known reservedKey = false)
    {after rest : List Char} {piece : Piece} (found : ofSpecifier? known after = some (piece, rest))
    {pieces : List Piece} :
    IsCut known ('%' :: after) pieces ↔
      ∃ others, pieces = piece :: others ∧ IsCut known rest others := by
  obtain ⟨specifies, same⟩ := (ofSpecifier?_eq_some_iff free after rest piece).mp found
  constructor
  · intro cut
    cases pieces with
    | nil =>
      have joined := cut.joined
      cases joined
    | cons first others =>
      obtain ⟨left, split, tail, allowed⟩ := isCut_cons.mp cut
      rcases allowed with specifies | ⟨s, rfl, inhabited, _, literally⟩
      · -- Reading is a function, so it finds this specifier and no other.
        have again := (ofSpecifier?_eq_some_iff free after left first).mpr ⟨specifies, split⟩
        rw [found] at again
        cases again
        exact ⟨others, rfl, tail⟩
      · -- A literal would cover the percent sign at which the specifier begins.
        obtain ⟨c, back, rfl⟩ := List.exists_cons_of_ne_nil inhabited
        obtain ⟨rfl, remains⟩ := List.cons.inj (show '%' :: after = c :: (back ++ left) from split)
        have begins : Begins known after := (isSome_ofSpecifier? free after).mp (by simp [found])
        exact absurd (remains ▸ begins) (literally [] back rfl)
  · rintro ⟨others, rfl, cut⟩
    exact isCut_cons.mpr ⟨rest, same, cut, Or.inl specifies⟩

/-- A character that begins no specifier belongs to a literal in every cut. -/
theorem isCut_consLiteral {known : Char → Bool} (free : known reservedKey = false) {c : Char}
    {text : List Char} (plain : c = '%' → ¬Begins known text) {pieces : List Piece} :
    IsCut known (c :: text) pieces ↔
      ∃ others, pieces = consLiteral c others ∧ IsCut known text others := by
  constructor
  · intro cut
    cases pieces with
    | nil =>
      have joined := cut.joined
      cases joined
    | cons first others =>
      obtain ⟨left, split, tail, allowed⟩ := isCut_cons.mp cut
      rcases allowed with specifies | ⟨s, rfl, inhabited, apart, literally⟩
      · -- A specifier would begin at a percent sign, where none does.
        have marked : c = '%' := by
          cases first with
          | literal s => exact specifies.elim
          | call key => exact (List.cons.inj split).1
          | group body => exact (List.cons.inj split).1
        subst marked
        have found := (ofSpecifier?_eq_some_iff free text left first).mpr ⟨specifies, split⟩
        exact absurd ((isSome_ofSpecifier? free text).mp (by simp [found])) (plain rfl)
      · obtain ⟨d, back, rfl⟩ := List.exists_cons_of_ne_nil inhabited
        obtain ⟨rfl, rfl⟩ := List.cons.inj (show c :: text = d :: (back ++ left) from split)
        cases back with
        | nil =>
          -- The literal was this character alone, so what follows is no literal.
          refine ⟨others, ?_, tail⟩
          cases others with
          | nil => rfl
          | cons next _ =>
            have other := apart next (by simp)
            cases next with
            | literal s => cases other
            | call key => rfl
            | group body => rfl
        | cons e back =>
          -- The literal goes on without this character.
          refine ⟨literal (e :: back) :: others, rfl, isCut_cons.mpr ⟨left, rfl, tail, Or.inr
            ⟨e :: back, rfl, by simp, apart, ?_⟩⟩⟩
          intro front rest same
          exact literally (c :: front) rest (by rw [same, List.cons_append])
  · rintro ⟨others, rfl, cut⟩
    -- Before anything but a literal the character is a literal of its own.
    have alone : (∀ next ∈ others.head?, next.isLiteral = false) →
        IsCut known (c :: text) (literal [c] :: others) := by
      intro apart
      refine isCut_cons.mpr ⟨text, rfl, cut, Or.inr ⟨[c], rfl, by simp, apart, ?_⟩⟩
      intro front back same
      cases front with
      | nil =>
        obtain ⟨rfl, rfl⟩ := List.cons.inj same
        exact plain rfl
      | cons d front => simp at same
    cases others with
    | nil => exact alone (by simp)
    | cons next others =>
      cases next with
      | literal s =>
        -- Before a literal it becomes the first character of that one.
        obtain ⟨left, rfl, tail, allowed⟩ := isCut_cons.mp cut
        rcases allowed with specifies | ⟨t, same, inhabited, apart, literally⟩
        · exact specifies.elim
        · cases same
          refine isCut_cons.mpr ⟨left, rfl, tail, Or.inr ⟨c :: s, rfl, by simp, apart, ?_⟩⟩
          intro front back same
          cases front with
          | nil =>
            obtain ⟨rfl, rfl⟩ := List.cons.inj same
            exact plain rfl
          | cons d front => exact literally front back (List.cons.inj same).2
      | call key => exact alone (by simp [isLiteral])
      | group body => exact alone (by simp [isLiteral])

/-! ### The scanner -/

theorem scan_specifier {known : Char → Bool} {rest after : List Char} {piece : Piece}
    (found : ofSpecifier? known rest = some (piece, after)) :
    scan known ('%' :: rest) = piece :: scan known after := by
  rw [scan, if_pos rfl]
  split
  next other later same =>
    rw [found] at same
    cases same
    rfl
  next nothing =>
    rw [found] at nothing
    cases nothing

theorem scan_undecided {known : Char → Bool} {rest : List Char}
    (undecided : ofSpecifier? known rest = none) :
    scan known ('%' :: rest) = consLiteral '%' (scan known rest) := by
  rw [scan, if_pos rfl]
  split
  next same =>
    rw [undecided] at same
    cases same
  · rfl

/-- The scanner finds the cut of a text, and there is no other. -/
theorem isCut_iff {known : Char → Bool} (free : known reservedKey = false) (text : List Char)
    (pieces : List Piece) : IsCut known text pieces ↔ pieces = scan known text := by
  -- Along the scan: each case fixes the first piece and leaves a shorter text.
  induction text using scan.induct known generalizing pieces with
  | case1 => simp [scan, isCut_nil]
  | case2 rest piece after found ih =>
    rw [isCut_specifier free found, scan_specifier found]
    simp [ih]
  | case3 rest undecided ih =>
    have plain : ¬Begins known rest := by
      rw [← isSome_ofSpecifier? free, undecided]
      simp
    rw [isCut_consLiteral free (fun _ => plain), scan_undecided undecided]
    simp [ih]
  | case4 c rest other ih =>
    rw [isCut_consLiteral free (fun same => absurd same other)]
    simp [scan, other, ih]

theorem scan_isCut {known : Char → Bool} (free : known reservedKey = false) (text : List Char) :
    IsCut known text (scan known text) := (isCut_iff free text _).mpr rfl

/-- The pieces of a cut are bound as they stand; a call always finds its function. -/
theorem binds_bind {registry : Registry} {text : List Char} {pieces : List Piece}
    (cut : IsCut registry.contains text pieces) :
    List.Forall₂ (Binds registry) pieces (pieces.map (bind registry)) := by
  rw [List.forall₂_map_right_iff, List.forall₂_same]
  intro piece member
  cases piece with
  | literal s => exact .literal s
  | call key =>
    -- Only a registered character is cut as a call.
    obtain ⟨f, found⟩ := Option.isSome_iff_exists.mp (cut.registered key member)
    simp only [bind, found]
    exact .call found
  | group body => exact .group body

end Piece

namespace Template

/-- **Compiling is exact.** A registry that claims the reserved character is refused whatever the
text. Any other registry cuts every text in exactly one way, compiling succeeds, and the segments
are the pieces of that cut, bound one by one. -/
theorem compile_exact (registry : Registry) (source : String) :
    if registry.contains reservedKey then
      compile source registry = .error (.reservedKey reservedKey)
    else
      (∃! pieces, Piece.IsCut registry.contains source.toList pieces) ∧
      ∃ template, compile source registry = .ok template ∧ template.source = source ∧
        ∀ pieces, Piece.IsCut registry.contains source.toList pieces →
          List.Forall₂ (Piece.Binds registry) pieces template.segments := by
  split
  next claimed => simp [compile, claimed]
  next unclaimed =>
    have free : registry.contains reservedKey = false := by simpa using unclaimed
    have cut := Piece.scan_isCut free source.toList
    have only : ∀ pieces, Piece.IsCut registry.contains source.toList pieces →
        pieces = Piece.scan registry.contains source.toList :=
      fun pieces => (Piece.isCut_iff free source.toList pieces).mp
    let template : Template := ⟨source, (pieces registry source).map (Piece.bind registry)⟩
    refine ⟨⟨_, cut, only⟩, template, ?_, rfl, ?_⟩
    · simp [template, compile, free]
    · intro pieces other
      obtain rfl := only pieces other
      exact Piece.binds_bind cut

end Template

end Tapline
