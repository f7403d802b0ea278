import Tapline.Sink.Basic
/-!
# Loggers

A logger hands each record to several sinks. A call reaches every sink in turn, whatever the
others answer; printing and flushing tell the first failure, and closing tells all of them.
-/

namespace Tapline

/-- Sinks that are given the same records. -/
structure Logger (δ : Type u) where
  sinks : List (Sink δ)

/-- A logger after a call, and what came of it. -/
structure LoggerStep (δ : Type u) (ε : Type v) where
  /-- The failures of the sinks, in their order. -/
  failures : List SinkError
  logger : Logger δ
  around : ε
  notices : List Notice
  background : List Notice

namespace LoggerStep

variable {δ : Type u} {ε : Type v}

/-- The first failure, if there is one. -/
def first (step : LoggerStep δ ε) : Except SinkError Unit :=
  match step.failures with
  | [] => .ok ()
  | cause :: _ => .error cause

/-- All failures, if there are any. -/
def all (step : LoggerStep δ ε) : Except CloseError Unit := (CloseError.mk step.failures).toResult

end LoggerStep

namespace Logger

variable {δ : Type u} {ε : Type v}

def empty : Logger δ := ⟨[]⟩

instance : Inhabited (Logger δ) := ⟨empty⟩

/-- The failure of a call, as a list. -/
def failureOf : Except SinkError Unit → List SinkError
  | .ok () => []
  | .error cause => [cause]

/-- Makes a call on every sink, from the first to the last. -/
def eachSink (call : Sink δ → ε → SinkStep δ ε) : List (Sink δ) → ε → LoggerStep δ ε
  | [], around => ⟨[], empty, around, [], []⟩
  | sink :: rest, around =>
    let step := call sink around
    -- The others are called whatever this sink has answered.
    let others := eachSink call rest step.around
    ⟨failureOf step.result ++ others.failures, ⟨step.sink :: others.logger.sinks⟩, others.around,
      step.notices ++ others.notices, step.background ++ others.background⟩

variable [ByteStream δ ε]

/-- Writes a record to a sink; a failure is noted. -/
def printTo (bag : Bag) (sink : Sink δ) (around : ε) : SinkStep δ ε :=
  let step := sink.write around bag
  let remarks := (failureOf step.result).map (Notice.sinkFailed sink.template.source)
  { step with notices := step.notices ++ remarks }

/-- Writes a record to every sink. -/
def print (logger : Logger δ) (around : ε) (bag : Bag) : LoggerStep δ ε :=
  eachSink (printTo bag) logger.sinks around

def flush (logger : Logger δ) (around : ε) : LoggerStep δ ε :=
  eachSink Sink.flush logger.sinks around

def close (logger : Logger δ) (around : ε) : LoggerStep δ ε :=
  eachSink Sink.close logger.sinks around

def drop (logger : Logger δ) (around : ε) : LoggerStep δ ε :=
  eachSink Sink.drop logger.sinks around

/-- Lets every background flusher receive the lines sent to it. -/
def settle (logger : Logger δ) (around : ε) : LoggerStep δ ε :=
  eachSink Sink.settle logger.sinks around

def describe (logger : Logger δ) : String :=
  "Logger \x7b sinks: [" ++ ", ".intercalate (logger.sinks.map Sink.describe) ++ "] \x7d"

end Logger

end Tapline
