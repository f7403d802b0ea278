import Tapline.Breadcrumb.Basic
import Tapline.Logger.Basic
import Tapline.Metrics
import Tapline.Span
import Tapline.Text.Identifier
/-!
# What operations share

Operations run in a world: the loggers with the surroundings of their streams, the trails, the
spans, the metrics, what observers have kept, and the notices that arose. Clock readings and
random identifiers come from outside; the world knows which of them it will be given, and how
many it has asked for. A program may keep state of its own in the world.
-/

namespace Tapline

/-- Refers to a logger, by its place. -/
structure LoggerRef where
  index : Nat
deriving DecidableEq, Repr

/-- Refers to a metric of one sort, by its place. -/
structure MetricRef where
  index : Nat
deriving DecidableEq, Repr

/-- What comes from outside, in the order in which it is asked for. -/
structure Supply where
  reading : Nat → ClockReading
  identifier : Nat → String

/-- A supply whose clocks go on by a microsecond from one reading to the next, beginning at a point
in time in UTC, and whose identifiers are numbered in a random identifier's form. -/
def Supply.counting (start : Timestamp) : Supply where
  reading n := ⟨.utc { start with nanos := start.nanos + n * 1000 }, ⟨n * 1000 + 17⟩⟩
  identifier := Text.numberedIdentifier

/-- What operations share. -/
structure World (δ ε υ : Type) where
  around : ε
  loggers : List (Logger δ)
  trails : List Trail
  spans : SpanLog
  counters : List (String × Counter)
  histograms : List (String × Histogram)
  /-- Bags kept by recording observers. -/
  records : KeyMap (List Bag)
  /-- Calls counted by counting observers. -/
  tallies : KeyMap Nat
  supply : Supply
  readingsTaken : Nat
  identifiersTaken : Nat
  notices : List Notice
  /-- Notices of background flushers. -/
  background : List Notice
  own : υ

namespace World

variable {δ ε υ : Type}

/-- A world in which nothing has happened. -/
def fresh (around : ε) (supply : Supply) (own : υ) : World δ ε υ :=
  ⟨around, [], [], .empty, [], [], .empty, .empty, supply, 0, 0, [], [], own⟩

def noteAll (world : World δ ε υ) (notices : List Notice) : World δ ε υ :=
  { world with notices := world.notices ++ notices }

def note (world : World δ ε υ) (notice : Notice) : World δ ε υ := world.noteAll [notice]

def readClocks (world : World δ ε υ) : ClockReading × World δ ε υ :=
  (world.supply.reading world.readingsTaken,
    { world with readingsTaken := world.readingsTaken + 1 })

def drawIdentifier (world : World δ ε υ) : String × World δ ε υ :=
  (world.supply.identifier world.identifiersTaken,
    { world with identifiersTaken := world.identifiersTaken + 1 })

/-! ### Trails -/

def addTrail (world : World δ ε υ) (capacity : Nat) : TrailRef × World δ ε υ :=
  (⟨world.trails.length⟩, { world with trails := world.trails ++ [Trail.ofCapacity capacity] })

def trail (world : World δ ε υ) (ref : TrailRef) : Trail := (world.trails[ref.index]?).getD default

def pushCrumb (world : World δ ε υ) (ref : TrailRef) (crumb : Breadcrumb) : World δ ε υ :=
  { world with trails := world.trails.modify ref.index (·.push crumb) }

/-- Takes the breadcrumbs out of a trail. -/
def takeCrumbs (world : World δ ε υ) (ref : TrailRef) : List Breadcrumb × World δ ε υ :=
  ((world.trail ref).take.1, { world with trails := world.trails.modify ref.index (·.take.2) })

/-! ### Metrics -/

def addCounter (world : World δ ε υ) (name : String) (labels : List String) :
    MetricRef × World δ ε υ :=
  (⟨world.counters.length⟩, { world with counters := world.counters ++ [(name, .new labels)] })

def addHistogram (world : World δ ε υ) (name : String) (labels : List String) :
    MetricRef × World δ ε υ :=
  (⟨world.histograms.length⟩,
    { world with histograms := world.histograms ++ [(name, .new labels)] })

/-- Counts one more under label values; values that do not fit are noted. -/
def count (world : World δ ε υ) (ref : MetricRef) (values : List String) : World δ ε υ :=
  match world.counters[ref.index]? with
  | none => world
  | some (name, counter) =>
    match counter.increment values with
    | .ok counter => { world with counters := world.counters.set ref.index (name, counter) }
    | .error cause => world.note (.counterRejected cause)

/-- Observes a value under label values; values that do not fit are noted. -/
def observe (world : World δ ε υ) (ref : MetricRef) (values : List String) (value : Binary64) :
    World δ ε υ :=
  match world.histograms[ref.index]? with
  | none => world
  | some (name, histogram) =>
    match histogram.observe values value with
    | .ok histogram =>
      { world with histograms := world.histograms.set ref.index (name, histogram) }
    | .error cause => world.note (.histogramRejected cause)

/-! ### Observers -/

/-- Keeps a bag for an observer. -/
def keepRecord (world : World δ ε υ) (observer : String) (bag : Bag) : World δ ε υ :=
  let kept := (world.records.get? observer).getD []
  { world with records := world.records.insert observer (kept ++ [bag]) }

/-- Makes an observer of bags known; it keeps what it has. -/
def addRecorder (world : World δ ε υ) (observer : String) : World δ ε υ :=
  if world.records.contains observer then world
  else { world with records := world.records.insert observer [] }

/-- Takes away what an observer has kept; an observer that is not known stays so. -/
def clearRecords (world : World δ ε υ) (observer : String) : World δ ε υ :=
  if world.records.contains observer then
    { world with records := world.records.insert observer [] }
  else world

/-- Counts a call for an observer. -/
def keepCall (world : World δ ε υ) (observer : String) : World δ ε υ :=
  let calls := (world.tallies.get? observer).getD 0
  { world with tallies := world.tallies.insert observer (calls + 1) }

/-- Makes an observer of calls known; it keeps its count. -/
def addTally (world : World δ ε υ) (observer : String) : World δ ε υ :=
  if world.tallies.contains observer then world
  else { world with tallies := world.tallies.insert observer 0 }

/-- Lets an observer count from zero again; one that is not known stays so. -/
def resetTally (world : World δ ε υ) (observer : String) : World δ ε υ :=
  if world.tallies.contains observer then
    { world with tallies := world.tallies.insert observer 0 }
  else world

def startSpan (world : World δ ε υ) (span : Span) : SpanRef × World δ ε υ :=
  let (ref, spans) := world.spans.start span
  (ref, { world with spans })

/-! ### Loggers -/

def logger (world : World δ ε υ) (ref : LoggerRef) : Logger δ :=
  (world.loggers[ref.index]?).getD .empty

/-- Takes a logger in. -/
def addLogger (world : World δ ε υ) (logger : Logger δ) : LoggerRef × World δ ε υ :=
  (⟨world.loggers.length⟩, { world with loggers := world.loggers ++ [logger] })

/-- Makes a call on a logger; its notices become those of the world. -/
def onLogger (world : World δ ε υ) (ref : LoggerRef)
    (call : Logger δ → ε → LoggerStep δ ε) : LoggerStep δ ε × World δ ε υ :=
  let step := call (world.logger ref) world.around
  (step, { world with
    around := step.around
    loggers := world.loggers.set ref.index step.logger
    notices := world.notices ++ step.notices
    background := world.background ++ step.background })

variable [ByteStream δ ε]

/-- Opens a sink over a stream, in a way of delivery. -/
def openSink (world : World δ ε υ) (template : Template) (stream : δ) (delivery : Delivery) :
    Sink δ × World δ ε υ :=
  let (sink, around) := Sink.ofStreamIn template stream delivery world.around
  (sink, { world with around })

def print (world : World δ ε υ) (ref : LoggerRef) (bag : Bag) :
    Except SinkError Unit × World δ ε υ :=
  let (step, world) := world.onLogger ref fun logger around => logger.print around bag
  (step.first, world)

def closeLogger (world : World δ ε υ) (ref : LoggerRef) : Except CloseError Unit × World δ ε υ :=
  let (step, world) := world.onLogger ref Logger.close
  (step.all, world)

def dropLogger (world : World δ ε υ) (ref : LoggerRef) : World δ ε υ :=
  (world.onLogger ref Logger.drop).2

/-- Lets the background flushers of every logger receive the lines sent to them. -/
def settle (world : World δ ε υ) : World δ ε υ :=
  (List.range world.loggers.length).foldl
    (fun world n => (world.onLogger ⟨n⟩ Logger.settle).2) world

end World

end Tapline
