import Tapline.Json.Basic
/-!
# Looking into documents

Look-ups that always answer: what is missing, or of another sort than asked for, reads as null or
as the least value of the sort. Texts, truth values, natural numbers and lists of documents may
stand where a document is wanted.
-/

namespace Tapline.Json

instance : Coe String Json := ⟨.string⟩
instance : Coe Bool Json := ⟨.bool⟩
instance : Coe Nat Json := ⟨.ofNat⟩
instance : Coe (List Json) Json := ⟨.array⟩

def get (document : Json) (key : String) : Json := (document.member? key).getD .null

def has (document : Json) (key : String) : Bool := (document.member? key).isSome

def items : Json → List Json
  | .array items => items
  | _ => []

def members : Json → List (String × Json)
  | .object members => members
  | _ => []

def nth (document : Json) (i : Nat) : Json := document.items.getD i .null

def int : Json → Int
  | .number (.integer n) => n
  | _ => 0

def nat (document : Json) : Nat := document.int.toNat

def flag : Json → Bool
  | .bool b => b
  | _ => false

def text : Json → String
  | .string s => s
  | _ => ""

/-- A text that is written out, or given as `{"repeat": [s, n]}`, which is `n` times `s`. -/
def str (document : Json) : String :=
  if document.has "repeat" then
    let parts := document.get "repeat"
    String.join (List.replicate (parts.nth 1).nat (parts.nth 0).text)
  else document.text

/-- Texts that are written out or given as repetitions. -/
def strs (document : Json) : List String := document.items.map str

/-- Anything but null. -/
def nonNull? : Json → Option Json
  | .null => none
  | document => some document

/-- A text, or null. -/
def str? (document : Json) : Option String := document.nonNull?.map str

/-- A natural number that may be missing. -/
def nat? (document : Json) (key : String) : Option Nat := (document.get key).nonNull?.map nat

/-- What an option holds, or null. -/
def ofOption {α : Type u} (document : α → Json) : Option α → Json
  | none => .null
  | some a => document a

/-- Documents made of the items of a list. -/
def ofList {α : Type u} (document : α → Json) (items : List α) : Json :=
  .array (items.map document)

end Tapline.Json
