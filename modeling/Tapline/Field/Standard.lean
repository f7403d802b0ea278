import Tapline.Field.Shapes
/-!
# The standard fields

The standard registry binds the well-known arguments to template characters, each argument under
its own name, and two templates use it: a readable line for terminals, and one JSON object per
record for files.
-/

namespace Tapline

/-- What a standard field does with its argument. -/
inductive StandardShape where
  | text | optionalText | value | time | duration | error
deriving DecidableEq, Repr

/-- The field function of a shape, for the argument of a name. -/
def StandardShape.function (shape : StandardShape) (name : String) : FieldFunction :=
  match shape with
  | .text => .text name name
  | .optionalText => .optionalText name name
  | .value => .value name name
  | .time => .plainTime name name
  | .duration => .duration name name
  | .error => .error name name

/-- A template character bound to an argument. -/
structure StandardField where
  key : Char
  name : String
  shape : StandardShape
deriving DecidableEq, Repr

def standardFields : List StandardField :=
  [⟨'T', ArgName.startTime, .time⟩, ⟨'E', ArgName.endTime, .time⟩,
    ⟨'D', ArgName.duration, .duration⟩, ⟨'u', ArgName.uuid, .text⟩,
    ⟨'U', ArgName.webUrl, .optionalText⟩, ⟨'M', ArgName.webMethod, .optionalText⟩,
    ⟨'s', ArgName.source, .optionalText⟩, ⟨'e', ArgName.error, .error⟩,
    ⟨'f', ArgName.funcName, .optionalText⟩, ⟨'c', ArgName.commandName, .optionalText⟩,
    ⟨'n', ArgName.collectionName, .optionalText⟩, ⟨'d', ArgName.dbName, .optionalText⟩,
    ⟨'t', ArgName.table, .optionalText⟩, ⟨'o', ArgName.operation, .optionalText⟩,
    ⟨'q', ArgName.sql, .optionalText⟩, ⟨'k', ArgName.key, .value⟩, ⟨'v', ArgName.value, .value⟩,
    ⟨'L', ArgName.url, .optionalText⟩, ⟨'m', ArgName.method, .optionalText⟩,
    ⟨'S', ArgName.statusCode, .value⟩, ⟨'r', ArgName.requestBody, .value⟩,
    ⟨'R', ArgName.responseBody, .value⟩, ⟨'x', ArgName.extra, .value⟩]

def Registry.standard : Registry :=
  standardFields.foldl
    (fun registry field => registry.insert field.key (field.shape.function field.name)) .empty

/-- A readable line for terminals. -/
def terminalPattern : String := "%T %u %s %f %D %e"

/-- One JSON object per record, for files. -/
def filePattern : String := "%J\x7bTEDuUMsefcndtoqkvLmSrRx\x7d"

end Tapline
