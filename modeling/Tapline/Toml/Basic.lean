import Tapline.KeyMap
/-!
# TOML documents

A document is a tree of tables. Besides its members a table remembers how it came to be, since
that decides who may still add to it: an implied table was only passed through by a longer
header and may be defined once; a table made by a header or a dotted key is defined; an inline
table is closed, and so is everything written as a plain value.
-/

namespace Tapline.Toml

/-- How a table came to be. -/
inductive Origin where
  /-- Passed through by a header. -/
  | implied
  /-- Defined by a header. -/
  | header
  /-- Made by a dotted key. -/
  | dotted
deriving DecidableEq, Repr

/-- A part of a document. -/
inductive Item where
  | string (s : String)
  | integer (n : Int)
  | float
  | boolean (b : Bool)
  | datetime
  | array (items : List Item)
  | inlineTable (members : List (String × Item))
  | table (origin : Origin) (members : List (String × Item))
  /-- A row of tables made by double headers, the last one first. -/
  | tables (reversed : List (List (String × Item)))

instance : Inhabited Item := ⟨.float⟩

abbrev Members := List (String × Item)

/-- Replaces or adds a member. -/
def Members.set (members : Members) (key : String) (item : Item) : Members :=
  insertEntry key item members

def Members.get? (members : Members) (key : String) : Option Item := lookupEntry key members

/-! ### Definitions -/

/-- Adds a value under a dotted key. The last key must be new, and the table that takes it must be
made by this key or by another dotted key. On the way to that table a key may also pass through
implied tables and the last table of a row, but not through a table that a header has defined. -/
def assign (value : Item) : List String → Members → Option Members
  | [], _ => none
  | [key], members => if (members.get? key).isSome then none else some (members.set key value)
  | key :: rest, members =>
    match members.get? key with
    -- A table on the way that is not there yet belongs to the dotted key.
    | none => (assign value rest []).map fun inner => members.set key (.table .dotted inner)
    | some (.table origin inner) =>
      if origin = .header ∨ origin = .implied ∧ rest.length = 1 then none
      else (assign value rest inner).map fun inner => members.set key (.table origin inner)
    | some (.tables (last :: before)) =>
      if rest.length = 1 then none
      else (assign value rest last).map fun last => members.set key (.tables (last :: before))
    | some _ => none

/-- Changes the table that a path leads to; the last table of a row of tables stands for it. -/
def update (change : String → Members → Option Members) : List String → Members → Option Members
  | [], _ => none
  | [key], members => change key members
  | key :: rest, members =>
    match members.get? key with
    -- A table that a header passes through may still be defined.
    | none => (update change rest []).map fun inner => members.set key (.table .implied inner)
    | some (.table origin inner) =>
      (update change rest inner).map fun inner => members.set key (.table origin inner)
    | some (.tables (last :: before)) =>
      (update change rest last).map fun last => members.set key (.tables (last :: before))
    | some _ => none

/-- Opens the table of a header, which may have been implied but not defined. -/
def openTable (path : List String) (root : Members) : Option Members :=
  update (fun key members =>
    match members.get? key with
    | none => some (members.set key (.table .header []))
    | some (.table .implied inner) => some (members.set key (.table .header inner))
    | some _ => none) path root

/-- Opens a further table of a double header. -/
def openNext (path : List String) (root : Members) : Option Members :=
  update (fun key members =>
    match members.get? key with
    | none => some (members.set key (.tables [[]]))
    | some (.tables before) => some (members.set key (.tables ([] :: before)))
    | some _ => none) path root

/-- Adds a value to the table that is open; no path means the root. -/
def assignIn (path : List String) (keys : List String) (value : Item) (root : Members) :
    Option Members :=
  if path.isEmpty then assign value keys root
  else update (fun key members =>
    match members.get? key with
    | some (.table origin inner) =>
      (assign value keys inner).map fun inner => members.set key (.table origin inner)
    | some (.tables (last :: before)) =>
      (assign value keys last).map fun last => members.set key (.tables (last :: before))
    | _ => none) path root

end Tapline.Toml
