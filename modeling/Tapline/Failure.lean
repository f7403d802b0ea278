import Tapline.Text.Quoted
/-!
# What can fail

Failures are causes. Each has one text, and a failure that wraps another shows the other's text
after its own. `PipelineError` is what a caller of the library sees.
-/

namespace Tapline

/-! ### Streams and files -/

/-- Why the file system or a stream refused. -/
inductive IOFault where
  | notFound
  | alreadyExists
  | notADirectory
  | isADirectory
  | busy
  | directoryNotEmpty
  | nameTooLong
  | nulInName
  | emptyFileName
  /-- A stream took nothing of what it was given. -/
  | nothingTaken
  | connectionReset (message : String)
  | other (message : String)
deriving DecidableEq, Repr

def IOFault.message : IOFault → String
  | .notFound => "No such file or directory (os error 2)"
  | .alreadyExists => "File exists (os error 17)"
  | .notADirectory => "Not a directory (os error 20)"
  | .isADirectory => "Is a directory (os error 21)"
  | .busy => "Device or resource busy (os error 16)"
  | .directoryNotEmpty => "Directory not empty (os error 39)"
  | .nameTooLong => "File name too long (os error 36)"
  | .nulInName => "file name contained an unexpected NUL byte"
  | .emptyFileName => "empty log file name"
  | .nothingTaken => "failed to write whole buffer"
  | .connectionReset message => message
  | .other message => message

/-! ### Sinks and loggers -/

/-- Why a sink refused a call. -/
inductive SinkError where
  | io (fault : IOFault)
  | closed
  /-- The background flusher is dead. -/
  | flusherDead
deriving DecidableEq, Repr

def SinkError.message : SinkError → String
  | .io fault => "stream write failed: " ++ fault.message
  | .closed => "render sink is closed"
  | .flusherDead => "background flusher panicked"

/-- The failures met while closing several sinks, in the order of the sinks. -/
structure CloseError where
  failures : List SinkError
deriving DecidableEq, Repr

namespace CloseError

/-- The number of failures, then their texts. -/
def message (e : CloseError) : String :=
  let count := toString e.failures.length ++ " sink(s) failed to close"
  if e.failures.isEmpty then count
  else count ++ ": " ++ "; ".intercalate (e.failures.map SinkError.message)

/-- No failure is no error. -/
def toResult (e : CloseError) : Except CloseError Unit :=
  if e.failures.isEmpty then .ok () else .error e

end CloseError

/-! ### Set-up -/

/-- Why a configuration cannot be used. -/
inductive InvalidSettings where
  | fileNameMissing
  | zeroInterval
  | unreadable (message : String)
  | other (message : String)
deriving DecidableEq, Repr

def InvalidSettings.message : InvalidSettings → String
  | .fileNameMissing => "out_file must be set when out_dir is"
  | .zeroInterval => "flush_interval_ms must be positive"
  | .unreadable message => message
  | .other message => message

/-- Why a pipeline cannot be set up. -/
inductive SetupError where
  /-- A registry claims a character that templates reserve. -/
  | reservedKey (key : Char)
  | duplicateLogHook
  | invalid (cause : InvalidSettings)
deriving DecidableEq, Repr

namespace SetupError

def message : SetupError → String
  | reservedKey key => "pattern key '" ++ key.toString ++ "' is reserved"
  | duplicateLogHook => "log hook already registered; only one log sink is allowed per manager"
  | invalid cause => "invalid configuration: " ++ cause.message

/-- A set-up error with its sort. -/
def describe : SetupError → String
  | reservedKey key => "ReservedKey(" ++ Text.quotedSingle key ++ ")"
  | duplicateLogHook => "DuplicateLogHook"
  | invalid cause => "Invalid(" ++ Text.quoted cause.message ++ ")"

end SetupError

/-! ### Callers -/

/-- Any failure of the library. -/
inductive PipelineError where
  | setup (e : SetupError)
  | sink (e : SinkError)
  | close (e : CloseError)
  | custom (message : String)
deriving DecidableEq, Repr

namespace PipelineError

def message : PipelineError → String
  | setup e => "configuration error: " ++ e.message
  | sink e => "render error: " ++ e.message
  | close e => e.message
  | custom message => message

/-- The text of the failure that caused this one, where it is shown apart from it. -/
def source? : PipelineError → Option String
  | setup e => some e.message
  | sink e => some e.message
  | close _ => none
  | custom _ => none

end PipelineError

end Tapline
