import Tapline.Template.Registry
/-!
# Reading templates

A template text is cut into pieces: a percent sign and a registered character is a call; `%J`
and a text in braces is a group; everything else is literal, also a percent sign that begins
neither. Literal characters in a row are one piece. The scanner decides at each percent sign by
what follows it, so an undecided percent sign is literal and reading goes on right behind it.
Compiling binds the characters of the pieces to the functions of a registry; in a group,
characters without a function are dropped.
-/

namespace Tapline

/-- A part of a template text. -/
inductive Piece where
  | literal (text : List Char)
  | call (key : Char)
  | group (body : List Char)
deriving DecidableEq, Repr

namespace Piece

/-- The text that a piece was read from. -/
def source : Piece → List Char
  | literal text => text
  | call key => ['%', key]
  | group body => '%' :: reservedKey :: '\x7b' :: (body ++ ['\x7d'])

/-- The piece that a percent sign begins, judged by what follows the sign, and the rest. -/
def ofSpecifier? (known : Char → Bool) : List Char → Option (Piece × List Char)
  | [] => none
  | key :: rest =>
    if key = reservedKey ∧ rest.head? = some '\x7b' then
      let body := rest.tail
      if '\x7d' ∈ body then
        some (group (body.takeWhile (· != '\x7d')), (body.dropWhile (· != '\x7d')).tail)
      else none
    else if known key then some (call key, rest)
    else none

theorem length_dropWhile_le {α : Type u} (p : α → Bool) (xs : List α) :
    (xs.dropWhile p).length ≤ xs.length := (List.dropWhile_suffix p).length_le

theorem length_lt_of_ofSpecifier? {known : Char → Bool} {cs rest : List Char} {piece : Piece}
    (found : ofSpecifier? known cs = some (piece, rest)) : rest.length < cs.length := by
  cases cs with
  | nil => simp [ofSpecifier?] at found
  | cons key after =>
    rw [ofSpecifier?] at found
    split at found
    · simp only at found
      split at found
      · simp only [Option.some.injEq, Prod.mk.injEq] at found
        have shorter := length_dropWhile_le (· != '\x7d') after.tail
        simp only [← found.2, List.length_tail, List.length_cons] at *
        omega
      · cases found
    · split at found
      · simp only [Option.some.injEq, Prod.mk.injEq] at found
        simp [← found.2]
      · cases found

/-- Puts a literal character in front, joining it with a literal piece. -/
def consLiteral (c : Char) : List Piece → List Piece
  | literal text :: rest => literal (c :: text) :: rest
  | rest => literal [c] :: rest

/-- Cuts a text into pieces. -/
def scan (known : Char → Bool) (cs : List Char) : List Piece :=
  match cs with
  | [] => []
  | c :: rest =>
    if c = '%' then
      match _found : ofSpecifier? known rest with
      | some (piece, after) => piece :: scan known after
      -- The percent sign is literal, and what follows it is looked at anew.
      | none => consLiteral c (scan known rest)
    else consLiteral c (scan known rest)
termination_by cs.length
decreasing_by
  · have := length_lt_of_ofSpecifier? _found
    simp only [List.length_cons]
    omega
  all_goals simp

/-- The segment of a piece. -/
def bind (registry : Registry) : Piece → Segment
  | literal text => .literal (String.ofList text)
  | call key => match registry.get? key with
    | some f => .call f
    | none => .literal (String.ofList (call key).source)
  | group body => .group (body.filterMap registry.get?)

end Piece

namespace Template

/-- The pieces of a template text, for the characters of a registry. -/
def pieces (registry : Registry) (source : String) : List Piece :=
  Piece.scan registry.contains source.toList

/-- Compiles a template text. A registry that claims the reserved character is refused. -/
def compile (source : String) (registry : Registry) : Except SetupError Template :=
  if registry.contains reservedKey then .error (.reservedKey reservedKey)
  else .ok ⟨source, (pieces registry source).map (Piece.bind registry)⟩

end Template

end Tapline
