/-!
# Paths

A path text is cut at slashes into parts. Empty parts and single points lead nowhere, two points
lead to the directory outside, and every other part is a name to be looked up. Where a text leads
is decided on a disk, step by step, since only a directory can be left again by two points.
-/

namespace Tapline

/-- A path below a directory; an absolute path stands alone. -/
def joinPath (directory name : String) : String :=
  if name.startsWith "/" ∨ directory.isEmpty then name
  else if directory.endsWith "/" then directory ++ name
  else directory ++ "/" ++ name

/-- The part of a path text from the first part that leads somewhere. -/
def trimPath (text : String) : String :=
  let parts := (text.splitOn "/").dropWhile fun part => part == "" || part == "."
  "/".intercalate parts

/-- The names that lead from the root to a node. -/
abbrev Path := List String

inductive PathStep where
  /-- To the directory outside. -/
  | out
  /-- To what a name leads to. -/
  | into (name : String)
deriving DecidableEq, Repr

/-- The step that a part of a path text means. -/
def PathStep.ofPart? (part : String) : Option PathStep :=
  if part == "" || part == "." then none
  else if part == ".." then some .out
  else some (.into part)

/-- A path text taken apart. -/
structure Location where
  /-- The steps to the directory in which the last name is looked up. -/
  way : List PathStep
  /-- The last name. A text that ends in points has none and means the directory itself. -/
  name : Option String
  /-- Whether a slash follows the last name, which then can only be that of a directory. -/
  slash : Bool
  /-- Bytes of the text. -/
  size : Nat
deriving DecidableEq, Repr

namespace Location

/-- The last name that steps lead to, and the steps before it. -/
def cut (steps : List PathStep) : List PathStep × Option String :=
  match steps.getLast? with
  | some (.into name) => (steps.dropLast, some name)
  | _ => (steps, none)

/-- The location that a path text means. -/
def ofText (text : String) : Location :=
  let parts := (text.splitOn "/").filter (· != "")
  let steps := parts.filterMap PathStep.ofPart?
  let (way, name) := if parts.getLast? == some "." then (steps, none) else cut steps
  ⟨way, name, text.endsWith "/", text.utf8ByteSize⟩

def steps (location : Location) : List PathStep :=
  location.way ++ (location.name.map PathStep.into).toList

def parent (location : Location) : Location :=
  let (way, name) := cut location.steps.dropLast
  { location with way, name, slash := false }

/-- The location of a numbered file beside a file. -/
def numbered (location : Location) (n : Nat) : Location :=
  let mark := "." ++ toString n
  { location with
    name := location.name.map (· ++ mark)
    size := location.size + mark.utf8ByteSize }

/-- The most bytes that a path text may have: 4096 with those of the root directory before it and
the mark of its end. -/
def greatestSize : Nat := 4079

end Location

end Tapline
