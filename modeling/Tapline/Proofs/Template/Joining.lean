import Tapline.Proofs.Template.OneLine
/-!
# Templates can be put together

Two template texts put end to end make a template whose line is the lines of the two end to end,
as long as nothing in the first one is still undecided at its end: a percent sign, `%J`, or a group
without its closing brace. A text without any of these is `Settled`.

## Main result

`templates_compose`: the segments of the whole are those of the parts, where two literals that meet
become one, and so are the lines.

## Proof strategy

The scanner decides at each percent sign by what follows it. A specifier that it finds is found
whatever comes behind (`ofSpecifier?_append`), and in a settled text a percent sign that begins
none begins none then either (`ofSpecifier?_append_eq_none`). What is left behind a piece is
settled again, so `scan_append` follows by induction along the scan of the first text. Merging
commutes with binding pieces to functions (`map_joinRows`) and leaves the line alone
(`bodyText_joinRows`).
-/

namespace Tapline

/-- Two rows end to end, where the two items that meet may become one. -/
def joinRows {α : Type u} (merge? : α → α → Option α) : List α → List α → List α
  | [], right => right
  | [last], first :: rest =>
    match merge? last first with
    | some both => both :: rest
    | none => last :: first :: rest
  | item :: left, right => item :: joinRows merge? left right

section Rows

variable {α : Type u} {β : Type v} {merge? : α → α → Option α}

theorem joinRows_cons_cons (item next : α) (left right : List α) :
    joinRows merge? (item :: next :: left) right =
      item :: joinRows merge? (next :: left) right := by
  rw [joinRows]
  simp

/-- An item that merges with none stays what it is. -/
theorem joinRows_cons_of_alone {item : α} (alone : ∀ other, merge? item other = none)
    (left right : List α) :
    joinRows merge? (item :: left) right = item :: joinRows merge? left right := by
  cases left with
  | nil => cases right <;> simp [joinRows, alone]
  | cons next left => exact joinRows_cons_cons item next left right

theorem map_joinRows {f : α → β} {mergeImages? : β → β → Option β} {left right : List α}
    (agree : ∀ a ∈ left, ∀ b ∈ right, mergeImages? (f a) (f b) = (merge? a b).map f) :
    (joinRows merge? left right).map f = joinRows mergeImages? (left.map f) (right.map f) := by
  induction left with
  | nil => rfl
  | cons item left ih =>
    cases left with
    | nil =>
      cases right with
      | nil => rfl
      | cons first rest =>
        have meet := agree item List.mem_cons_self first List.mem_cons_self
        cases merged : merge? item first <;> simp [joinRows, meet, merged]
    | cons next left =>
      rw [joinRows_cons_cons, List.map_cons, List.map_cons, List.map_cons, joinRows_cons_cons,
        ih fun a member => agree a (List.mem_cons_of_mem _ member), List.map_cons]

end Rows

/-! ### Texts that may be followed by another -/

namespace Piece

/-- Nothing in the text waits for what comes behind it. -/
structure Settled (text : List Char) : Prop where
  percent : ¬ ['%'] <:+ text
  reserved : ¬ ['%', reservedKey] <:+ text
  groups : ∀ after, '%' :: reservedKey :: '\x7b' :: after <:+ text → '\x7d' ∈ after

theorem Settled.of_append {front back : List Char} (settled : Settled (front ++ back)) :
    Settled back where
  percent := fun ends => settled.percent (ends.trans (List.suffix_append front back))
  reserved := fun ends => settled.reserved (ends.trans (List.suffix_append front back))
  groups := fun after inside => settled.groups after (inside.trans (List.suffix_append front back))

theorem Settled.of_cons {c : Char} {text : List Char} (settled : Settled (c :: text)) :
    Settled text := @Settled.of_append [c] text settled

variable {known : Char → Bool}

/-- A specifier that has been found stays the same when the text goes on. -/
theorem ofSpecifier?_append (free : known reservedKey = false) {after rest : List Char}
    {piece : Piece} (found : ofSpecifier? known after = some (piece, rest)) (more : List Char) :
    ofSpecifier? known (after ++ more) = some (piece, rest ++ more) := by
  rw [ofSpecifier?_eq_some_iff free] at found ⊢
  exact ⟨found.1, by rw [← List.cons_append, found.2, List.append_assoc]⟩

/-- In a settled text a literal percent sign stays literal when the text goes on. -/
theorem ofSpecifier?_append_eq_none (free : known reservedKey = false) {after : List Char}
    (settled : Settled ('%' :: after)) (undecided : ofSpecifier? known after = none)
    (more : List Char) : ofSpecifier? known (after ++ more) = none := by
  have plain : ¬Begins known after := by simp [← isSome_ofSpecifier? free, undecided]
  rw [← Option.not_isSome_iff_eq_none, isSome_ofSpecifier? free]
  rintro (⟨key, rest, same, registered⟩ | ⟨rest, same, closed⟩)
  · cases after with
    | nil => exact settled.percent List.suffix_rfl
    | cons c after =>
      obtain rfl : c = key := (List.cons.inj same).1
      exact plain (Or.inl ⟨c, after, rfl, registered⟩)
  · -- As much of `J` and the brace as is there already makes the text unsettled.
    match after with
    | [] => exact settled.percent List.suffix_rfl
    | [c] =>
      obtain rfl : c = reservedKey := (List.cons.inj same).1
      exact settled.reserved List.suffix_rfl
    | c :: d :: after =>
      obtain ⟨rfl, tail⟩ := List.cons.inj same
      obtain rfl : d = '\x7b' := (List.cons.inj tail).1
      exact plain (Or.inr ⟨after, rfl, settled.groups after List.suffix_rfl⟩)

/-! ### The pieces of two texts -/

/-- Two literals that meet are one. -/
def merge? : Piece → Piece → Option Piece
  | literal s, literal t => some (literal (s ++ t))
  | _, _ => none

theorem joinRows_specifier {piece : Piece} (specifies : Specifies known piece)
    (left right : List Piece) :
    joinRows merge? (piece :: left) right = piece :: joinRows merge? left right := by
  apply joinRows_cons_of_alone
  intro other
  cases piece with
  | literal s => exact specifies.elim
  | call key => rfl
  | group body => rfl

theorem joinRows_consLiteral (c : Char) (left right : List Piece) :
    joinRows merge? (consLiteral c left) right = consLiteral c (joinRows merge? left right) := by
  -- In front of a specifier the character is a literal of its own, which merges with nothing.
  have before (piece : Piece) (alone : ∀ other, merge? piece other = none) (left : List Piece) :
      joinRows merge? (literal [c] :: piece :: left) right =
        literal [c] :: piece :: joinRows merge? left right := by
    rw [joinRows_cons_cons, joinRows_cons_of_alone alone]
  match left with
  | [] =>
    match right with
    | [] => rfl
    | literal _ :: _ | call _ :: _ | group _ :: _ => rfl
  | [literal s] =>
    match right with
    | [] => rfl
    | literal _ :: _ | call _ :: _ | group _ :: _ => rfl
  | literal s :: next :: left => simp only [consLiteral, joinRows_cons_cons]
  | call key :: left =>
    rw [joinRows_cons_of_alone fun _ => rfl]
    exact before (call key) (fun _ => rfl) left
  | group body :: left =>
    rw [joinRows_cons_of_alone fun _ => rfl]
    exact before (group body) (fun _ => rfl) left

/-- The pieces of a text that goes on are those of its two parts. -/
theorem scan_append (free : known reservedKey = false) {text : List Char} (settled : Settled text)
    (more : List Char) :
    scan known (text ++ more) = joinRows merge? (scan known text) (scan known more) := by
  -- Along the scan of the first text: whatever is found there is found in the whole.
  induction text using scan.induct known with
  | case1 => simp [scan, joinRows]
  | case2 rest piece after found ih =>
    obtain ⟨specifies, same⟩ := (ofSpecifier?_eq_some_iff free rest after piece).mp found
    rw [List.cons_append, scan_specifier (ofSpecifier?_append free found more),
      scan_specifier found, joinRows_specifier specifies, ih (Settled.of_append (same ▸ settled))]
  | case3 rest undecided ih =>
    rw [List.cons_append, scan_undecided (ofSpecifier?_append_eq_none free settled undecided more),
      scan_undecided undecided, joinRows_consLiteral, ih settled.of_cons]
  | case4 c rest other ih =>
    rw [List.cons_append, scan, if_neg other, scan, if_neg other, joinRows_consLiteral,
      ih settled.of_cons]

end Piece

/-! ### The segments and the line -/

namespace Segment

/-- Two literals that meet are one. -/
def merge? : Segment → Segment → Option Segment
  | .literal s, .literal t => some (.literal (s ++ t))
  | _, _ => none

theorem merge?_bind {registry : Registry} {a b : Piece}
    (left : ∀ key, a = .call key → registry.contains key = true)
    (right : ∀ key, b = .call key → registry.contains key = true) :
    merge? (Piece.bind registry a) (Piece.bind registry b) =
      (Piece.merge? a b).map (Piece.bind registry) := by
  -- A call that has a function is bound to a call, so literals are bound from literals alone.
  have bound {key : Char} (registered : registry.contains key = true) :
      ∃ f, Piece.bind registry (.call key) = .call f := by
    obtain ⟨f, found⟩ := Option.isSome_iff_exists.mp registered
    exact ⟨f, by rw [Piece.bind, found]⟩
  cases a with
  | literal s =>
    cases b with
    | literal t => simp [Piece.bind, Piece.merge?, merge?]
    | call key =>
      obtain ⟨f, same⟩ := bound (right key rfl)
      rw [same]
      rfl
    | group body => rfl
  | call key =>
    obtain ⟨f, same⟩ := bound (left key rfl)
    rw [same]
    rfl
  | group body => rfl

end Segment

theorem bodyText_joinRows (left right : List Segment) (bag : Bag) :
    bodyText (joinRows Segment.merge? left right) bag =
      ⟨(bodyText left bag).value ++ (bodyText right bag).value,
        (bodyText left bag).notices ++ (bodyText right bag).notices⟩ := by
  induction left with
  | nil => simp [joinRows, bodyText, Noted.pure]
  | cons segment left ih =>
    cases left with
    | nil =>
      cases right with
      | nil => simp [joinRows, bodyText, Noted.pure]
      | cons first rest =>
        cases merged : Segment.merge? segment first with
        | none => simp [joinRows, merged, bodyText, Noted.pure]
        | some both =>
          match segment, first with
          | .literal s, .literal t =>
            obtain rfl : .literal (s ++ t) = both := by simpa [Segment.merge?] using merged
            simp [joinRows, Segment.merge?, bodyText, Segment.text, Noted.pure, String.append_assoc]
    | cons next left =>
      rw [joinRows_cons_cons, bodyText, ih]
      simp [bodyText, String.append_assoc]

namespace Template

/-- The segments of a text that goes on are those of its two parts. -/
theorem segments_append {registry : Registry} (free : registry.contains reservedKey = false)
    {front : String} (settled : Piece.Settled front.toList) (back : String) :
    (pieces registry (front ++ back)).map (Piece.bind registry) =
      joinRows Segment.merge? ((pieces registry front).map (Piece.bind registry))
        ((pieces registry back).map (Piece.bind registry)) := by
  rw [pieces, String.toList_append, Piece.scan_append free settled]
  apply map_joinRows
  intro a inFront b inBack
  -- The scanner takes registered characters only for calls.
  have cutFront := Piece.scan_isCut free front.toList
  have cutBack := Piece.scan_isCut free back.toList
  exact Segment.merge?_bind (fun key same => cutFront.registered key (same ▸ inFront))
    (fun key same => cutBack.registered key (same ▸ inBack))

theorem compile_of_free {registry : Registry} (free : registry.contains reservedKey = false)
    (source : String) :
    compile source registry = .ok ⟨source, (pieces registry source).map (Piece.bind registry)⟩ :=
  compile_eq_ok_iff.mpr ⟨free, rfl⟩

theorem bodyText_pieces_append {registry : Registry}
    (free : registry.contains reservedKey = false) {front : String}
    (settled : Piece.Settled front.toList) (back : String) (bag : Bag) :
    let body := fun source => bodyText ((pieces registry source).map (Piece.bind registry)) bag
    body (front ++ back) = ⟨(body front).value ++ (body back).value,
      (body front).notices ++ (body back).notices⟩ := by
  intro body
  simp only [body, segments_append free settled back, bodyText_joinRows]

/-- **Templates compose.** Behind a settled text any other may follow: the segments of the two
together are the segments of each, where two literals that meet become one, and the line of a bag
is the line of the first without its line feed and then the line of the second, with the notices
of both. -/
theorem templates_compose {registry : Registry} (free : registry.contains reservedKey = false)
    {front : String} (settled : Piece.Settled front.toList) (back : String) :
    ∃ first second whole, compile front registry = .ok first ∧
      compile back registry = .ok second ∧ compile (front ++ back) registry = .ok whole ∧
      whole.segments = joinRows Segment.merge? first.segments second.segments ∧
      ∀ bag, ∃ body, (first.line bag).value = body ++ "\n" ∧
        (whole.line bag).value = body ++ (second.line bag).value ∧
        (whole.line bag).notices = (first.line bag).notices ++ (second.line bag).notices := by
  refine ⟨_, _, _, compile_of_free free front, compile_of_free free back,
    compile_of_free free (front ++ back), segments_append free settled back, fun bag => ?_⟩
  refine ⟨(bodyText ((pieces registry front).map (Piece.bind registry)) bag).value, rfl, ?_, ?_⟩
  · simp only [line, bodyText_pieces_append free settled back, String.append_assoc]
  · simp only [line, bodyText_pieces_append free settled back]

/-- A group, a percent sign that begins nothing, and literals that meet in front of a brace. -/
theorem line_of_joined_texts :
    let registry := Registry.empty.insert 'u' (.constant "k" (.text "v"))
    let front := "%J\x7bu\x7d50%x "
    registry.contains reservedKey = false ∧ Piece.Settled front.toList ∧
      ∃ whole, compile (front ++ "J\x7b %u") registry = .ok whole ∧ whole.segments.length = 3 ∧
        (whole.line ∅).value = "\x7b\x22k\x22:\x22v\x22\x7d50%x J\x7b v\n" := by
  intro registry front
  have free : registry.contains reservedKey = false := by decide
  have settled : Piece.Settled front.toList := by
    refine ⟨by decide, by decide, fun after inside => ?_⟩
    obtain rfl : after = "u\x7d50%x ".toList := by
      simpa [front, List.suffix_cons_iff, reservedKey] using inside
    decide
  obtain ⟨first, second, whole, compiled, compiled', both, segments, lines⟩ :=
    templates_compose free settled "J\x7b %u"
  obtain ⟨body, ended, joined, -⟩ := lines ∅
  obtain ⟨-, rfl⟩ := compile_eq_ok_iff.mp compiled
  obtain ⟨-, rfl⟩ := compile_eq_ok_iff.mp compiled'
  refine ⟨free, settled, whole, both, ?_, ?_⟩
  · rw [segments]
    decide +kernel
  · have start : (line ⟨front, (pieces registry front).map (Piece.bind registry)⟩ ∅).value =
        "\x7b\x22k\x22:\x22v\x22\x7d50%x " ++ "\n" := by decide +kernel
    rw [joined, (String.append_left_inj _).mp (ended.symm.trans start)]
    decide +kernel

/-- Where the first text is not settled, the brace behind it makes a group of two literals. -/
example : Piece.scan (· == 'u') ("%J".toList ++ "\x7bu\x7d".toList) ≠ joinRows Piece.merge?
    (Piece.scan (· == 'u') "%J".toList) (Piece.scan (· == 'u') "\x7bu\x7d".toList) := by
  decide +kernel

end Template

end Tapline
