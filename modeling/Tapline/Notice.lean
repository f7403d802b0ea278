import Tapline.Failure
import Tapline.Value.Encode
/-!
# Notices

What the library has to tell besides its results. A notice is what happened; its severity, its
text and its fields follow from that. A fatal notice says that the run cannot go on: nothing
after it is of interest.
-/

namespace Tapline

/-- How much a notice matters. -/
inductive Severity where
  | debug
  | warn
  | error
deriving DecidableEq, Repr

/-- What ends a run. -/
inductive Fatal where
  | invalidTimeFormat
  | clockOverflow
  | streamCrashed
  | bufferTooLarge
deriving DecidableEq, Repr

/-- A metric that was given label values of the wrong number. -/
structure LabelMismatch where
  expected : Nat
  got : Nat
deriving DecidableEq, Repr

def LabelMismatch.message (e : LabelMismatch) : String :=
  "Inconsistent label cardinality, expect " ++ toString e.expected ++ " label values, but got " ++
    toString e.got

/-- Something that happened. -/
inductive Notice where
  /-- A group was written in the loose form. -/
  | looseGroup (cause : EncodeError)
  | rotated (path : String)
  | opened (path : String) (buffered : Bool)
  /-- A batch was lost in the background. -/
  | batchDropped (bytes : Nat) (cause : IOFault)
  /-- The last batch was lost while closing. -/
  | finalBatchLost (bytes : Nat) (cause : IOFault)
  | dropFailed (cause : SinkError)
  | sinkFailed (template : String) (cause : SinkError)
  | recordFailed (cause : SinkError)
  | replacedLoggerFailed (cause : CloseError)
  | counterRejected (cause : LabelMismatch)
  | histogramRejected (cause : LabelMismatch)
  | globalManagerKept
  | fatal (cause : Fatal)
deriving DecidableEq, Repr

namespace Notice

def severity : Notice → Severity
  | looseGroup _ | rotated _ | opened .. => .debug
  | finalBatchLost .. | fatal _ => .error
  | _ => .warn

def message : Notice → String
  | looseGroup _ => "json group not encodable, writing raw fields"
  | rotated _ => "rotated log file"
  | opened .. => "opened log file sink"
  | batchDropped .. => "background flush failed"
  | finalBatchLost .. => "final flush failed, buffered records lost"
  | dropFailed _ => "render sink failed to close on drop"
  | sinkFailed .. => "log sink write failed"
  | recordFailed _ => "failed to log hook record"
  | replacedLoggerFailed _ => "failed to close replaced logger"
  | counterRejected _ => "counter labels rejected"
  | histogramRejected _ => "histogram labels rejected"
  | globalManagerKept => "global manager already initialized, keeping the first one"
  | fatal _ => "the run cannot go on"

def fields : Notice → List (String × Json)
  | looseGroup cause => [("error", .string cause.message)]
  | rotated path => [("path", .string path)]
  | opened path buffered => [("path", .string path), ("buffered", .bool buffered)]
  | batchDropped bytes cause => [("dropped_bytes", .ofNat bytes), ("error", .string cause.message)]
  | finalBatchLost bytes cause => [("lost_bytes", .ofNat bytes), ("error", .string cause.message)]
  | dropFailed cause | recordFailed cause => [("error", .string cause.message)]
  | sinkFailed template cause =>
    [("template", .string template), ("error", .string cause.message)]
  | replacedLoggerFailed cause => [("error", .string cause.message)]
  | counterRejected cause | histogramRejected cause => [("error", .string cause.message)]
  | globalManagerKept | fatal _ => []

def isFatal : Notice → Bool
  | fatal _ => true
  | _ => false

end Notice

end Tapline
