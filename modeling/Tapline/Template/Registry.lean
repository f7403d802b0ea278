import Tapline.Template.Basic
/-!
# Registries

A registry names field functions by single characters. It takes any character; the one that
templates reserve for groups is refused when a template is compiled.
-/

namespace Tapline

/-- The character that begins a group. -/
def reservedKey : Char := 'J'

/-- Field functions by character, in the order of the characters. -/
structure Registry where
  entries : List (Char × FieldFunction)

namespace Registry

def empty : Registry := ⟨[]⟩

instance : Inhabited Registry := ⟨empty⟩

private def place (key : Char) (f : FieldFunction) :
    List (Char × FieldFunction) → List (Char × FieldFunction)
  | [] => [(key, f)]
  | entry :: rest =>
    if key < entry.1 then (key, f) :: entry :: rest
    else if key = entry.1 then (key, f) :: rest
    else entry :: place key f rest

private def search (key : Char) : List (Char × FieldFunction) → Option FieldFunction
  | [] => none
  | entry :: rest => if entry.1 = key then some entry.2 else search key rest

/-- Names a function, in place of an older one. -/
def insert (registry : Registry) (key : Char) (f : FieldFunction) : Registry :=
  ⟨place key f registry.entries⟩

def get? (registry : Registry) (key : Char) : Option FieldFunction := search key registry.entries

def contains (registry : Registry) (key : Char) : Bool := (registry.get? key).isSome

/-- The characters with a function, in order. -/
def keys (registry : Registry) : List Char := registry.entries.map Prod.fst

def size (registry : Registry) : Nat := registry.entries.length

/-- Takes over every function of another registry. -/
def merge (registry other : Registry) : Registry :=
  other.entries.foldl (fun registry entry => registry.insert entry.1 entry.2) registry

def describe (registry : Registry) : String :=
  "PatternRegistry \x7b keys: [" ++ ", ".intercalate (registry.keys.map Text.quotedSingle) ++
    "] \x7d"

private theorem search_place (key other : Char) (f : FieldFunction)
    (entries : List (Char × FieldFunction)) :
    search other (place key f entries) = if other = key then some f else search other entries := by
  induction entries with
  | nil => simp [place, search, eq_comm]
  | cons entry rest ih =>
    obtain ⟨first, g⟩ := entry
    rw [place]
    by_cases h : other = key
    · subst h
      split
      · simp [search]
      · split <;> simp_all [search, eq_comm]
    · have away : ¬ key = other := fun same => h same.symm
      split
      · simp [search, away]
      · split
        next same =>
          simp only at same
          subst same
          simp [search, away]
        · simp [search, h, ih]

theorem get?_insert (registry : Registry) (key other : Char) (f : FieldFunction) :
    (registry.insert key f).get? other = if other = key then some f else registry.get? other :=
  search_place key other f registry.entries

end Registry

end Tapline
