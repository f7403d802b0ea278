import Tapline.KeyMap
import Tapline.Number.Binary64
/-!
# JSON documents

A document keeps the members of an object in key order. Numbers are integers where they were
written as integers that fit 64 bits, with or without a sign, and doubles otherwise. Two numbers
are equal only within one of these kinds.
-/

namespace Tapline

/-- A JSON number. -/
inductive JsonNumber where
  /-- An integer from `-2^63` to `2^64 - 1`. -/
  | integer (n : Int)
  | double (x : Binary64)
deriving DecidableEq, Repr

/-- A JSON document; the members of an object ascend by key. -/
inductive Json where
  | null
  | bool (b : Bool)
  | number (n : JsonNumber)
  | string (s : String)
  | array (items : List Json)
  | object (members : List (String × Json))
deriving Repr

instance : Inhabited Json := ⟨.null⟩

/-- Numeric equality within one kind of number. -/
def JsonNumber.equals : JsonNumber → JsonNumber → Bool
  | .integer a, .integer b => a == b
  | .double a, .double b => a.equals b
  | _, _ => false

namespace Json

mutual

/-- Equality of documents, with numeric equality of doubles. -/
def equals : Json → Json → Bool
  | .null, .null => true
  | .bool a, .bool b => a == b
  | .number a, .number b => a.equals b
  | .string a, .string b => a == b
  | .array a, .array b => equalsItems a b
  | .object a, .object b => equalsMembers a b
  | _, _ => false

def equalsItems : List Json → List Json → Bool
  | [], [] => true
  | a :: as, b :: bs => equals a b && equalsItems as bs
  | _, _ => false

def equalsMembers : List (String × Json) → List (String × Json) → Bool
  | [], [] => true
  | (k, a) :: as, (l, b) :: bs => k == l && equals a b && equalsMembers as bs
  | _, _ => false

end

def ofInt (n : Int) : Json := .number (.integer n)

def ofNat (n : Nat) : Json := .number (.integer n)

/-- A double as a number, or null if it is not finite. -/
def ofBinary64 (x : Binary64) : Json := if x.isFinite then .number (.double x) else .null

/-- An object of the given members; of several with one key the last stands. -/
def ofMembers (members : List (String × Json)) : Json :=
  .object (members.foldl (fun made member => insertEntry member.1 member.2 made) [])

def member? (key : String) : Json → Option Json
  | .object members => lookupEntry key members
  | _ => none

end Json

end Tapline
