import Tapline.Disk.Path
import Tapline.Failure
import Tapline.Field.Standard
import Tapline.Toml.Reader
/-!
# Settings of a logger

Settings describe the sinks that a logger opens: one on standard output, and one on a rolling
file, each with a template. They can be read from TOML, where every setting is optional and
unknown ones are ignored. Settings are valid unless they name a directory without a file, or ask
for background flushing without an interval.
-/

namespace Tapline

/-- When a log file is written and rotated. -/
structure RollingLimits where
  /-- Bytes kept in memory before they reach the file. -/
  bufferSize : Nat
  /-- The size that a file may reach; zero means any. -/
  rotateSize : Nat
  /-- How many older files are kept. -/
  maxFiles : Nat
deriving DecidableEq, Repr

/-- How a sink hands records to its stream. -/
inductive Delivery where
  | direct
  /-- In the background, at intervals and whenever so many bytes wait. -/
  | batched (interval : Duration) (capacity : Nat)
deriving DecidableEq

namespace Delivery

/-- Bytes that make a batch, unless given. -/
def defaultCapacity : Nat := 32768

/-- In the background, every second. -/
def standardBatches : Delivery := .batched (Duration.ofMillis 1000) defaultCapacity

end Delivery

/-- The sinks of a logger. -/
structure Settings where
  stdout : Bool
  stdoutPattern : String
  /-- Where the log file lies; empty means that there is none. -/
  directory : String
  fileName : String
  filePattern : String
  bufferSize : Nat
  rotateSize : Nat
  maxFiles : Nat
  asyncFlush : Bool
  flushMillis : Nat
deriving DecidableEq, Repr

namespace Settings

/-- The settings that hold unless others are given. -/
def standard : Settings where
  stdout := true
  stdoutPattern := terminalPattern
  directory := ""
  fileName := "hookwire.log"
  filePattern := Tapline.filePattern
  bufferSize := Delivery.defaultCapacity
  rotateSize := 268435456
  maxFiles := 10
  asyncFlush := false
  flushMillis := 1000

/-- The greatest number of a setting. -/
def greatest : Nat := 0xFFFFFFFFFFFFFFFF

/-- Flushes in the background at an interval, counted in milliseconds as far as they fit. -/
def withAsyncFlush (s : Settings) (interval : Duration) : Settings :=
  { s with asyncFlush := true, flushMillis := min interval.totalMillis greatest }

def fileEnabled (s : Settings) : Bool := !s.directory.isEmpty

def filePath (s : Settings) : String := joinPath s.directory s.fileName

/-- Refuses settings that cannot work. -/
def validate (s : Settings) : Except InvalidSettings Unit :=
  if s.fileEnabled ∧ s.fileName.isEmpty then .error .fileNameMissing
  else if s.asyncFlush ∧ s.flushMillis = 0 then .error .zeroInterval
  else .ok ()

/-- How the file sink hands records over. -/
def delivery (s : Settings) : Delivery :=
  if s.asyncFlush then .batched (Duration.ofMillis s.flushMillis) (max s.bufferSize 1) else .direct

/-- When the log file is written and rotated. -/
def rollingLimits (s : Settings) : RollingLimits := ⟨s.bufferSize, s.rotateSize, s.maxFiles⟩

/-- The settings as JSON members, in the order of their declaration. -/
def members (s : Settings) : List (String × Json) :=
  [("stdout", .bool s.stdout), ("stdout_pattern", .string s.stdoutPattern),
    ("out_dir", .string s.directory), ("out_file", .string s.fileName),
    ("out_pattern", .string s.filePattern), ("file_buffer_size", .ofNat s.bufferSize),
    ("rotate_size", .ofNat s.rotateSize), ("max_log_file", .ofNat s.maxFiles),
    ("async_flush", .bool s.asyncFlush), ("flush_interval_ms", .ofNat s.flushMillis)]

def text (s : Settings) : String := "\x7b" ++ Json.writeMembers s.members ++ "\x7d"

/-! ### Reading -/

/-- A truth value, or the standard one if it is not given; none if it is of another sort. -/
def flag? (members : Toml.Members) (key : String) (standard : Bool) : Option Bool :=
  match members.get? key with
  | none => some standard
  | some (.boolean b) => some b
  | some _ => none

/-- A text, likewise. -/
def text? (members : Toml.Members) (key standard : String) : Option String :=
  match members.get? key with
  | none => some standard
  | some (.string s) => some s
  | some _ => none

/-- A natural number, likewise. -/
def count? (members : Toml.Members) (key : String) (standard : Nat) : Option Nat :=
  match members.get? key with
  | none => some standard
  -- A negative number counts as one of another sort.
  | some (.integer n) => if 0 ≤ n then some n.toNat else none
  | some _ => none

/-- The settings of a document; none if one is of the wrong sort. -/
def ofMembers? (members : Toml.Members) : Option Settings := do
  return {
    stdout := ← flag? members "stdout" standard.stdout
    stdoutPattern := ← text? members "stdout_pattern" standard.stdoutPattern
    directory := ← text? members "out_dir" standard.directory
    fileName := ← text? members "out_file" standard.fileName
    filePattern := ← text? members "out_pattern" standard.filePattern
    bufferSize := ← count? members "file_buffer_size" standard.bufferSize
    rotateSize := ← count? members "rotate_size" standard.rotateSize
    maxFiles := ← count? members "max_log_file" standard.maxFiles
    asyncFlush := ← flag? members "async_flush" standard.asyncFlush
    flushMillis := ← count? members "flush_interval_ms" standard.flushMillis }

/-- Reads settings from TOML and validates them. -/
def ofToml (text : String) : Except InvalidSettings Settings := do
  match Toml.read? text >>= ofMembers? with
  | none => .error (.unreadable "the document holds no settings")
  | some settings =>
    settings.validate
    return settings

end Settings

end Tapline
