import Tapline.Pipeline.Basic
/-!
# Call sites

A call site wraps one operation in a hook: it says where and when the operation starts and what
it is called, runs the handlers that come before, does the work in the context that they leave,
says when and how the work ended, and runs the handlers that come after. The answer of the work
is passed on as it is.

The duration is measured on the steady clock from the last start. Without a start it is taken
from the argument that tells the start time, if there is one that is not in the future.

Work may also be done in parts. Then nothing happens until the first part is asked for.
-/

namespace Tapline

namespace Operation

variable {δ ε υ : Type}

/-- Says where and when the operation starts. -/
def start (op : Operation) (location : String) (world : World δ ε υ) :
    Operation × World δ ε υ :=
  let (now, world) := world.readClocks
  let op := { op with extensions := op.extensions.put .startInstant now.steady }
  ((op.set ArgName.startTime (.time now.wall)).set ArgName.source (.text location), world)

/-- Says what the operation is called. -/
def named (op : Operation) (name : String) : Operation := op.set ArgName.funcName (.text name)

def elapsed (op : Operation) (now : ClockReading) : Duration :=
  match op.extensions.get? .startInstant with
  | some start => start.elapsedTo now.steady
  | none => ((op.bag.time? ArgName.startTime).bind (·.instant.elapsedTo? now.wall)).getD .zero

/-- Says when the operation ended, and with what error, if any. -/
def finish (op : Operation) (error : Option String) (world : World δ ε υ) :
    Operation × World δ ε υ :=
  let (now, world) := world.readClocks
  let ended := { op with extensions := op.extensions.take .startInstant }
  let ended := (ended.set ArgName.endTime (.time now.wall)).set ArgName.duration
    (.duration (op.elapsed now))
  match error with
  | none => (ended, world)
  -- Without an error nothing is set, and an older one stays.
  | some message => (ended.set ArgName.error (.text message), world)

end Operation

/-- The text of an error, if an answer is one. -/
def errorText? {φ α : Type} (text : φ → String) : Except φ α → Option String
  | .ok _ => none
  | .error e => some (text e)

/-- What a call site knows of an operation before its work is done. -/
structure CallSite where
  context : Context
  name : String
  location : String
  fields : Bag

namespace CallSite

variable {δ ε υ : Type}

/-- The hook of the operation once the handlers that come before have run. -/
def enter (site : CallSite) (pipeline : Pipeline δ ε υ) (world : World δ ε υ) :
    Hook δ ε υ × World δ ε υ :=
  let hook := pipeline.hook site.context
  -- Fields stand over defaults, and what the start says stands over both.
  let op := { hook.operation with bag := hook.operation.bag.insertMany site.fields.entries }
  let (op, world) := op.start site.location world
  { hook with operation := op.named site.name }.runBefore world

/-- The hook of the operation once the handlers that come after have run. -/
def leave (hook : Hook δ ε υ) (error : Option String) (world : World δ ε υ) :
    Hook δ ε υ × World δ ε υ :=
  let (operation, world) := hook.operation.finish error world
  { hook with operation }.runAfter world

/-- Does work as an operation. -/
def instrument {φ α : Type} (site : CallSite) (pipeline : Pipeline δ ε υ) (text : φ → String)
    (work : Context → World δ ε υ → Except φ α × World δ ε υ) (world : World δ ε υ) :
    Except φ α × World δ ε υ :=
  let (hook, world) := site.enter pipeline world
  let (result, world) := work hook.operation.context world
  (result, (leave hook (errorText? text result) world).2)

end CallSite

/-! ### Work in parts -/

/-- Work that is done in parts; the last part gives the answer. -/
inductive Task (σ α : Type) where
  | last (work : σ → α × σ)
  | wait (work : σ → σ) (rest : Task σ α)

namespace Task

def parts {σ α : Type} : Task σ α → Nat
  | last _ => 1
  | wait _ rest => rest.parts + 1

def runAll {σ α : Type} : Task σ α → σ → α × σ
  | last work, state => work state
  | wait work rest, state => rest.runAll (work state)

end Task

/-- An operation whose work is done in parts. -/
inductive PendingCall (δ ε υ φ α : Type) where
  | waiting (site : CallSite) (work : Context → Task (World δ ε υ) (Except φ α))
  | working (hook : Hook δ ε υ) (rest : Task (World δ ε υ) (Except φ α))
  | finished

namespace PendingCall

variable {δ ε υ φ α : Type}

/-- Does the next part of the work; after the last one, the handlers that come after run. -/
def advance (hook : Hook δ ε υ) (text : φ → String) (task : Task (World δ ε υ) (Except φ α))
    (world : World δ ε υ) : Option (Except φ α) × PendingCall δ ε υ φ α × World δ ε υ :=
  match task with
  | .last work =>
    let (result, world) := work world
    (some result, finished, (CallSite.leave hook (errorText? text result) world).2)
  | .wait work rest => (none, working hook rest, work world)

/-- Asks for the next part. The first time, the handlers that come before run first. -/
def poll (call : PendingCall δ ε υ φ α) (pipeline : Pipeline δ ε υ) (text : φ → String)
    (world : World δ ε υ) : Option (Except φ α) × PendingCall δ ε υ φ α × World δ ε υ :=
  match call with
  | waiting site work =>
    let (hook, world) := site.enter pipeline world
    advance hook text (work hook.operation.context) world
  | working hook rest => advance hook text rest world
  | finished => (none, finished, world)

/-- Asks for parts until the answer is there, at most so many times; also tells how many times. -/
def pollMany (pipeline : Pipeline δ ε υ) (text : φ → String) :
    Nat → PendingCall δ ε υ φ α → World δ ε υ → Option (Except φ α) × Nat × World δ ε υ
  | 0, _, world => (none, 0, world)
  | n + 1, call, world =>
    match call.poll pipeline text world with
    | (some result, _, world) => (some result, 1, world)
    | (none, call, world) =>
      let (result, polls, world) := pollMany pipeline text n call world
      (result, polls + 1, world)

end PendingCall

end Tapline
