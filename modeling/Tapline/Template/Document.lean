import Tapline.Field.Standard
import Tapline.Json.Access
import Tapline.Template.Compile
/-!
# Registries from documents

A registry is described by a document: a list of field functions, or the standard registry, or
both. A field function is described by its shape, the argument it reads and the key it gives. One
shape renders another template, with a registry of its own, so the descriptions nest; reading goes
as deep as the document.
-/

namespace Tapline

namespace Json

mutual

/-- How deep documents are nested within a document. -/
def depth : Json → Nat
  | .array items => depthOfItems items + 1
  | .object members => depthOfMembers members + 1
  | _ => 1

/-- The depth of the deepest item. -/
def depthOfItems : List Json → Nat
  | [] => 0
  | item :: rest => max (depth item) (depthOfItems rest)

/-- The depth of the deepest member. -/
def depthOfMembers : List (String × Json) → Nat
  | [] => 0
  | (_, member) :: rest => max (depth member) (depthOfMembers rest)

end

/-- A character, or a blank. -/
def char (document : Json) : Char := document.text.toList.headD ' '

end Json

namespace Registry

/-- The field function of a description within a document of a given depth. Descriptions of values
are read by `value`. -/
def functionWithin (value : Json → StateM Nat Value)
    (registry : Json → StateM Nat Registry) (d : Json) : StateM Nat FieldFunction := do
  let name := (d.get "field").text
  let key := (d.get "as").text
  match (d.get "fn").text with
  | "time" => return .time name key (d.get "format").str
  | "constant" => return .constant key (← value (d.get "value"))
  | "skip" => return .ofPure fun _ => .skipped key
  | "with_skip" =>
    let v ← value (d.get "value")
    return .ofPure fun _ => ⟨key, v, (d.get "skip").flag⟩
  | "nested" =>
    match Template.compile (d.get "template").str (← registry (d.get "registry")) with
    | .ok template => return .line key template
    | .error _ => return .ofPure fun _ => default
  | shape =>
    return ((FieldFunction.named? shape).map (· name key)).getD (.ofPure fun _ => default)

/-- The registry of a description that is not deeper than given. -/
def within (value : Json → StateM Nat Value) : Nat → Json → StateM Nat Registry
  | 0, _ => return .empty
  | depth + 1, d => do
    let (base, functions) := match d with
      | .string _ => (Registry.standard, [])
      | .array functions => (Registry.empty, functions)
      | d => (if (d.get "std").flag then Registry.standard else .empty, (d.get "fns").items)
    functions.foldlM (fun made f => do
      return made.insert (f.get "k").char (← functionWithin value (within value depth) f)) base

/-- The registry of a description. -/
def ofDocument (value : Json → StateM Nat Value) (d : Json) : StateM Nat Registry :=
  within value d.depth d

end Registry

/-- The field function of a description. -/
def FieldFunction.ofDocument (value : Json → StateM Nat Value) (d : Json) :
    StateM Nat FieldFunction :=
  Registry.functionWithin value (Registry.within value d.depth) d

end Tapline
