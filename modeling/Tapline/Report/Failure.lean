import Tapline.Failure
import Tapline.Json.Access
import Tapline.Stream.Basic
/-!
# Failures as documents

A failure is reported with its sort, its text and the failures within it. What a reader of
settings has to say about their text is not reported: only that they were refused.
-/

namespace Tapline

namespace Report

def failure (sort message : String) (more : List (String × Json)) : Json :=
  .ofMembers (("error", sort) :: ("message", message) :: more)

/-- The report of a result that is either good or a failure. -/
def result {ε α : Type} (report : ε → Json) : Except ε α → Json
  | .ok _ => "ok"
  | .error e => report e

/-- The report of a failure that is told by its text alone. -/
def boxed (message : String) : Json := failure "Box" message []

end Report

/-- The sort of a refusal. -/
def IOFault.sort : IOFault → String
  | .notFound => "NotFound"
  | .alreadyExists => "AlreadyExists"
  | .notADirectory => "NotADirectory"
  | .isADirectory => "IsADirectory"
  | .busy => "ResourceBusy"
  | .directoryNotEmpty => "DirectoryNotEmpty"
  | .nameTooLong => "InvalidFilename"
  | .nulInName | .emptyFileName => "InvalidInput"
  | .nothingTaken => "WriteZero"
  | .connectionReset _ => "ConnectionReset"
  | .other _ => "Other"

def IOFault.report (fault : IOFault) : Json := Report.failure fault.sort fault.message []

/-- The report of a stream's fault; a crash leaves none. -/
def StreamFault.report : StreamFault → Json
  | .refused fault => fault.report
  | .crashed _ => .null

def SinkError.report (e : SinkError) : Json :=
  let sort := match e with
    | .io _ => "Io"
    | .closed => "Closed"
    | .flusherDead => "FlusherPanicked"
  Report.failure sort e.message []

def SetupError.report (e : SetupError) : Json :=
  match e with
  | .invalid (.unreadable _) => .ofMembers [("error", "Invalid")]
  | .invalid _ => Report.failure "Invalid" e.message []
  | .reservedKey _ => Report.failure "ReservedKey" e.message []
  | .duplicateLogHook => Report.failure "DuplicateLogHook" e.message []

def CloseError.report (e : CloseError) : Json :=
  Report.failure "Close" e.message [("inner", .ofList SinkError.report e.failures)]

def PipelineError.report (e : PipelineError) : Json :=
  match e with
  | .setup inner => Report.failure "Config" e.message [("inner", inner.report)]
  | .sink inner => Report.failure "Render" e.message [("inner", inner.report)]
  | .close inner => inner.report
  | .custom message => Report.failure "Custom" message []

/-- What there is to say of a failure beyond its text: the sort of a set-up error, and the number of
failures to close. -/
def PipelineError.detail : PipelineError → Json
  | .setup inner => inner.describe
  | .close inner =>
    .ofMembers [("len", (inner.failures.length : Json)), ("is_empty", inner.failures.isEmpty),
      ("into_result", inner.toResult.toBool)]
  | _ => .null

/-- All that there is to say of a failure. -/
def PipelineError.account (e : PipelineError) : Json :=
  .ofMembers [("own", (e.source?.getD e.message : String)), ("display", e.message),
    ("top", e.report), ("source", .ofOption Json.string e.source?), ("extra", e.detail)]

end Tapline
