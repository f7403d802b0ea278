import Tapline.Pipeline.CallSite
/-!
# What a call site promises

The work of a call site is done exactly once, between the two chains, in the context that the chain
before leaves, and its answer is passed on. What the chains find at their start is settled name by
name, although several sources write the same bag and handlers may rewrite it.

## Main result

`call_site_protocol`.

## Proof strategy

Each handler and the work are watched. A watched call is made in the world without the log, so it
can neither read nor change the log, and it adds one entry to it. The log of the watched call site
then tells which calls were made, in which order, and with what. A watched run is the plain run with
a log (`runHandlers_watchChain`), so the log tells of the plain run as well.
-/

namespace Tapline

variable {δ ε υ φ α : Type}

/-! ### Watching -/

/-- A call that a call site makes. -/
inductive SiteCall
  | before (place : Nat) (found : Operation)
  | work (context : Context)
  | after (place : Nat) (found : Operation)

namespace World

/-- A world with a log beside its own state. -/
def logging (world : World δ ε υ) (log : List SiteCall) : World δ ε (υ × List SiteCall) :=
  { world with own := (world.own, log) }

def unlogged (world : World δ ε (υ × List SiteCall)) : World δ ε υ :=
  { world with own := world.own.1 }

/-- Does what knows nothing of the log, and adds a call to it. -/
def watching (call : SiteCall) (act : World δ ε υ → α × World δ ε υ)
    (world : World δ ε (υ × List SiteCall)) : α × World δ ε (υ × List SiteCall) :=
  ((act world.unlogged).1, (act world.unlogged).2.logging (world.own.2 ++ [call]))

end World

def Handler.watched (call : Operation → SiteCall) (handler : Handler δ ε υ) :
    Handler δ ε (υ × List SiteCall) :=
  fun op => World.watching (call op) (handler op)

def watchChain (call : Nat → Operation → SiteCall) (handlers : List (Handler δ ε υ)) :
    List (Handler δ ε (υ × List SiteCall)) :=
  handlers.mapIdx fun place handler => Handler.watched (call place) handler

def Pipeline.watched (pipeline : Pipeline δ ε υ) : Pipeline δ ε (υ × List SiteCall) where
  defaults := pipeline.defaults
  before := watchChain .before pipeline.before
  after := watchChain .after pipeline.after
  logger := pipeline.logger

def watchWork (work : Context → World δ ε υ → Except φ α × World δ ε υ) (context : Context) :
    World δ ε (υ × List SiteCall) → Except φ α × World δ ε (υ × List SiteCall) :=
  World.watching (.work context) (work context)

/-- The operations that the handlers of a chain find, one after the other. -/
def foundBy : List (Handler δ ε υ) → Operation → World δ ε υ → List Operation
  | [], _, _ => []
  | handler :: rest, op, world => op :: foundBy rest (handler op world).1 (handler op world).2

theorem length_foundBy (handlers : List (Handler δ ε υ)) (op : Operation) (world : World δ ε υ) :
    (foundBy handlers op world).length = handlers.length := by
  induction handlers generalizing op world with
  | nil => rfl
  | cons handler rest ih => rw [foundBy, List.length_cons, List.length_cons, ih]

/-- What a chain begins with is found by its first handler, or left by a chain that has none. -/
theorem head?_foundBy (handlers : List (Handler δ ε υ)) (op : Operation) (world : World δ ε υ) :
    (foundBy handlers op world ++ [(runHandlers handlers op world).1]).head? = some op := by
  cases handlers with
  | nil => rfl
  | cons handler rest => rfl

/-- **A watched chain is the chain with a log.** -/
theorem runHandlers_watchChain (call : Nat → Operation → SiteCall)
    (handlers : List (Handler δ ε υ)) (op : Operation) (world : World δ ε υ)
    (log : List SiteCall) :
    runHandlers (watchChain call handlers) op (world.logging log) =
      ((runHandlers handlers op world).1,
        (runHandlers handlers op world).2.logging
          (log ++ (foundBy handlers op world).mapIdx call)) := by
  -- The places of the rest are counted from one more on.
  induction handlers generalizing call op world log with
  | nil => simp [watchChain, foundBy, runHandlers]
  | cons handler rest ih =>
    have first : Handler.watched (call 0) handler op (world.logging log) =
        ((handler op world).1, (handler op world).2.logging (log ++ [call 0 op])) := rfl
    have split : watchChain call (handler :: rest) =
        Handler.watched (call 0) handler :: watchChain (fun place => call (place + 1)) rest := by
      rw [watchChain, List.mapIdx_cons]
      rfl
    have step := ih (fun place => call (place + 1)) (handler op world).1 (handler op world).2
      (log ++ [call 0 op])
    rw [split, foundBy, List.mapIdx_cons, List.append_cons log]
    calc runHandlers (Handler.watched (call 0) handler ::
            watchChain (fun place => call (place + 1)) rest) op (world.logging log)
        = runHandlers (watchChain (fun place => call (place + 1)) rest) (handler op world).1
            ((handler op world).2.logging (log ++ [call 0 op])) := by
          rw [runHandlers, List.foldl_cons, first]
          rfl
      _ = _ := step

/-! ### What the chains find -/

/-- Sets default arguments one after the other. -/
def Pipeline.setDefaults (pipeline : Pipeline δ ε υ) (history : List (String × Value)) :
    Pipeline δ ε υ :=
  history.foldl (fun pipeline entry => pipeline.setDefault entry.1 entry.2) pipeline

theorem Pipeline.setDefaults_eq (pipeline : Pipeline δ ε υ) (history : List (String × Value)) :
    pipeline.setDefaults history =
      { pipeline with defaults := pipeline.defaults.insertMany history } := by
  induction history generalizing pipeline with
  | nil => rfl
  | cons entry rest ih => exact ih (pipeline.setDefault entry.1 entry.2)

/-- The last value that was set for a name. -/
def lastSet? (history : List (String × Value)) (name : String) : Option Value :=
  (history.filter fun entry => entry.1 == name).getLast?.map Prod.snd

/-- The identifier that an operation shows of its request. -/
def Context.shownUuid (context : Context) : String :=
  match context.request with
  | none => "unknown"
  | some request => if request.uuid = "" then "unknown" else request.uuid

/-- The arguments tell of the request of a context. -/
structure Operation.ShowsRequest (op : Operation) (context : Context) : Prop where
  uuid : op.bag.get? "uuid" = some (.text context.shownUuid)
  url : op.bag.get? "web_url" = some (.text ((context.request.map (·.url)).getD ""))
  method : op.bag.get? "web_method" = some (.text ((context.request.map (·.method)).getD ""))

namespace CallSite

def openingNames : List String :=
  ["uuid", "web_url", "web_method", "start_time", "source", "func_name"]

def closingNames : List String := ["uuid", "web_url", "web_method", "end_time", "duration"]

/-- What the chain before finds at its start. -/
structure Opens (site : CallSite) (pipeline : Pipeline δ ε υ) (history : List (String × Value))
    (began : ClockReading) (op : Operation) : Prop where
  context : op.context = site.context
  request : op.ShowsRequest site.context
  name : op.bag.get? "func_name" = some (.text site.name)
  startTime : op.bag.get? "start_time" = some (.time began.wall)
  source : op.bag.get? "source" = some (.text site.location)
  others : ∀ key, key ∉ openingNames → op.bag.get? key =
    (site.fields.get? key).or ((lastSet? history key).or (pipeline.defaults.get? key))
  parked : op.extensions.get? .startInstant = some began.steady

/-- What the chain after finds at its start, given what the chain before left. -/
structure Closes (left : Operation) (error : Option String) (ended : ClockReading)
    (op : Operation) : Prop where
  context : op.context = left.context
  request : op.ShowsRequest left.context
  endTime : op.bag.get? "end_time" = some (.time ended.wall)
  duration : op.bag.get? "duration" = some (.duration (left.elapsed ended))
  failure : ∀ message, error = some message → op.bag.get? "error" = some (.text message)
  others : ∀ key, key ∉ closingNames → (key = "error" → error = none) →
    op.bag.get? key = left.bag.get? key

end CallSite

namespace Operation

theorem get?_set (op : Operation) (name key : String) (value : Value) :
    (op.set name value).bag.get? key = if name = key then some value else op.bag.get? key :=
  KeyMap.get?_insert op.bag name key value

theorem showsRequest_setRequestArgs (op : Operation) :
    op.setRequestArgs.ShowsRequest op.context := by
  -- A context without a request counts as one with a blank request.
  constructor
  · rw [setRequestArgs, get?_set, get?_set, get?_set, if_neg (by decide), if_neg (by decide),
      if_pos (by decide), Context.shownUuid]
    cases op.context.request with
    | none => rfl
    | some request => simp [unknownUuid]
  · rw [setRequestArgs, get?_set, get?_set, if_neg (by decide), if_pos (by decide)]
    cases op.context.request with
    | none => rfl
    | some request => rfl
  · rw [setRequestArgs, get?_set, if_pos (by decide)]
    cases op.context.request with
    | none => rfl
    | some request => rfl

theorem get?_setRequestArgs (op : Operation) {key : String}
    (other : key ∉ ["uuid", "web_url", "web_method"]) :
    op.setRequestArgs.bag.get? key = op.bag.get? key := by
  simp only [List.mem_cons, List.not_mem_nil, or_false, not_or] at other
  obtain ⟨uuid, url, method⟩ := other
  rw [setRequestArgs, get?_set, get?_set, get?_set]
  exact (if_neg (Ne.symm method)).trans ((if_neg (Ne.symm url)).trans (if_neg (Ne.symm uuid)))

end Operation

namespace CallSite

variable (site : CallSite) (pipeline : Pipeline δ ε υ)

/-- The operation that the chain before finds. -/
def opening (began : ClockReading) : Operation :=
  let bag := pipeline.defaults.insertMany site.fields.entries
  let extensions := Slots.empty.put .startInstant began.steady
  let op : Operation := ⟨bag, site.context, pipeline.logger, extensions⟩
  let started := (op.set ArgName.startTime (.time began.wall)).set ArgName.source
    (.text site.location)
  (started.named site.name).setRequestArgs

/-- The operation that the chain after finds. -/
def closing (left : Operation) (error : Option String) (ended : ClockReading) : Operation :=
  let op := { left with extensions := left.extensions.take .startInstant }
  let finished := (op.set ArgName.endTime (.time ended.wall)).set ArgName.duration
    (.duration (left.elapsed ended))
  match error with
  | none => finished.setRequestArgs
  | some message => (finished.set ArgName.error (.text message)).setRequestArgs

/-- What the chain before leaves. -/
def leadIn (world : World δ ε υ) : Operation × World δ ε υ :=
  runHandlers pipeline.before (site.opening pipeline world.readClocks.1) world.readClocks.2

/-- What the chain after leaves. -/
def leadOut (left : Operation) (error : Option String) (world : World δ ε υ) :
    Operation × World δ ε υ :=
  runHandlers pipeline.after (closing left error world.readClocks.1) world.readClocks.2

theorem instrument_eq (text : φ → String)
    (work : Context → World δ ε υ → Except φ α × World δ ε υ) (world : World δ ε υ) :
    site.instrument pipeline text work world =
      let left := site.leadIn pipeline world
      let done := work left.1.context left.2
      (done.1, (leadOut pipeline left.1 (errorText? text done.1) done.2).2) := by
  have ended : ∀ (hook : Hook δ ε υ) (error : Option String) (world : World δ ε υ),
      (leave hook error world).2 =
        (runHandlers hook.after (closing hook.operation error world.readClocks.1)
          world.readClocks.2).2 := by
    intro hook error world
    cases error with
    | none => rfl
    | some message => rfl
  rw [instrument]
  exact Prod.ext rfl (ended _ _ _)

open Operation in
/-- Of the sources of an argument, the last that sets it. -/
theorem get?_opening (began : ClockReading) {key : String}
    (other : key ∉ ["uuid", "web_url", "web_method"]) :
    (site.opening pipeline began).bag.get? key =
      if "func_name" = key then some (.text site.name)
      else if "source" = key then some (.text site.location)
      else if "start_time" = key then some (.time began.wall)
      else (site.fields.get? key).or (pipeline.defaults.get? key) := by
  rw [opening, get?_setRequestArgs _ other, named, get?_set, get?_set, get?_set,
    KeyMap.get?_insertMany_entries]
  rfl

open Operation in
theorem get?_closing (left : Operation) (error : Option String) (ended : ClockReading)
    {key : String} (other : key ∉ ["uuid", "web_url", "web_method"]) :
    (closing left error ended).bag.get? key =
      (if "error" = key then error.map Value.text else none).or
        (if "duration" = key then some (.duration (left.elapsed ended))
        else if "end_time" = key then some (.time ended.wall)
        else left.bag.get? key) := by
  cases error with
  | none =>
    rw [closing, get?_setRequestArgs _ other, get?_set, get?_set, Option.map_none, ite_self]
    rfl
  | some message =>
    rw [closing, get?_setRequestArgs _ other, get?_set, get?_set, get?_set, ArgName.error]
    split
    · rfl
    · rfl

theorem opens_opening (history : List (String × Value)) (began : ClockReading) :
    site.Opens pipeline history began (site.opening (pipeline.setDefaults history) began) := by
  constructor
  · rfl
  · exact Operation.showsRequest_setRequestArgs _
  · rw [get?_opening _ _ _ (by decide), if_pos rfl]
  · rw [get?_opening _ _ _ (by decide), if_neg (by decide), if_neg (by decide), if_pos rfl]
  · rw [get?_opening _ _ _ (by decide), if_neg (by decide), if_pos rfl]
  · intro key other
    simp only [openingNames, List.mem_cons, List.not_mem_nil, or_false, not_or] at other
    obtain ⟨uuid, url, method, start, source, name⟩ := other
    rw [get?_opening _ _ _ (by simp [uuid, url, method]), if_neg (Ne.symm name),
      if_neg (Ne.symm source), if_neg (Ne.symm start), Pipeline.setDefaults_eq,
      KeyMap.get?_insertMany]
    rfl
  · exact Slots.get?_put_self _ _ _

theorem closes_closing (left : Operation) (error : Option String) (ended : ClockReading) :
    Closes left error ended (closing left error ended) := by
  have shows : (closing left error ended).context = left.context ∧
      (closing left error ended).ShowsRequest left.context := by
    cases error with
    | none => exact ⟨rfl, Operation.showsRequest_setRequestArgs _⟩
    | some message => exact ⟨rfl, Operation.showsRequest_setRequestArgs _⟩
  constructor
  · exact shows.1
  · exact shows.2
  · rw [get?_closing _ _ _ (by decide)]
    rfl
  · rw [get?_closing _ _ _ (by decide)]
    rfl
  · rintro message rfl
    rw [get?_closing _ _ _ (by decide), if_pos rfl]
    rfl
  · intro key other clean
    simp only [closingNames, List.mem_cons, List.not_mem_nil, or_false, not_or] at other
    obtain ⟨uuid, url, method, ended_, duration⟩ := other
    have no_error : (if "error" = key then error.map Value.text else none) = none := by
      split
      next same => rw [clean same.symm]; rfl
      next => rfl
    rw [get?_closing _ _ _ (by simp [uuid, url, method]), no_error, Option.none_or,
      if_neg (Ne.symm duration), if_neg (Ne.symm ended_)]

end CallSite

/-! ### The whole run -/

namespace CallSite

variable (site : CallSite) (pipeline : Pipeline δ ε υ)

theorem leadIn_watched (world : World δ ε υ) (log : List SiteCall) :
    site.leadIn pipeline.watched (world.logging log) =
      ((site.leadIn pipeline world).1, (site.leadIn pipeline world).2.logging
        (log ++ (foundBy pipeline.before (site.opening pipeline world.readClocks.1)
          world.readClocks.2).mapIdx .before)) :=
  runHandlers_watchChain .before pipeline.before _ world.readClocks.2 log

theorem leadOut_watched (left : Operation) (error : Option String) (world : World δ ε υ)
    (log : List SiteCall) :
    leadOut pipeline.watched left error (world.logging log) =
      ((leadOut pipeline left error world).1, (leadOut pipeline left error world).2.logging
        (log ++ (foundBy pipeline.after (closing left error world.readClocks.1)
          world.readClocks.2).mapIdx .after)) :=
  runHandlers_watchChain .after pipeline.after _ world.readClocks.2 log

end CallSite

/-- **The protocol of a call site.** Each handler and the work are called once, in the order of the
chains with the work between them. The work is done in the context that the chain before leaves, and
its answer is that of the call, with or without a log. The first handler of each chain finds what
`Opens` and `Closes` say; a chain without handlers would leave just that. The duration is that from
the start to the end of the work, as long as the chain before leaves the start where it was. -/
theorem call_site_protocol (site : CallSite) (pipeline : Pipeline δ ε υ)
    (history : List (String × Value)) (text : φ → String)
    (work : Context → World δ ε υ → Except φ α × World δ ε υ) (world : World δ ε υ) :
    let made := pipeline.setDefaults history
    let plain := site.instrument made text work world
    let watched := site.instrument made.watched text (watchWork work) (world.logging [])
    let began := world.readClocks
    ∃ (opening left closing ended : Operation) (entered worked : World δ ε υ)
      (earlier later : List Operation),
      runHandlers made.before opening began.2 = (left, entered) ∧
      work left.context entered = (plain.1, worked) ∧
      runHandlers made.after closing worked.readClocks.2 = (ended, plain.2) ∧
      watched = (plain.1, plain.2.logging
        (earlier.mapIdx .before ++ [.work left.context] ++ later.mapIdx .after)) ∧
      earlier.length = pipeline.before.length ∧ later.length = pipeline.after.length ∧
      (earlier ++ [left]).head? = some opening ∧ (later ++ [ended]).head? = some closing ∧
      site.Opens pipeline history began.1 opening ∧
      CallSite.Closes left (errorText? text plain.1) worked.readClocks.1 closing ∧
      (left.extensions.get? .startInstant = some began.1.steady → closing.bag.get? "duration" =
        some (.duration (began.1.steady.elapsedTo worked.readClocks.1.steady))) := by
  intro made plain watched began
  -- The run by its stages.
  let opening := site.opening made began.1
  let left := site.leadIn made world
  let done := work left.1.context left.2
  let closing := CallSite.closing left.1 (errorText? text done.1) done.2.readClocks.1
  let ended := CallSite.leadOut made left.1 (errorText? text done.1) done.2
  let earlier := foundBy made.before opening began.2
  let later := foundBy made.after closing done.2.readClocks.2
  have run : plain = (done.1, ended.2) := site.instrument_eq made text work world
  have before : made.before = pipeline.before := by
    simp only [made, Pipeline.setDefaults_eq]
  have after : made.after = pipeline.after := by
    simp only [made, Pipeline.setDefaults_eq]
  have watched_run : watched = (done.1, ended.2.logging
      (earlier.mapIdx .before ++ [.work left.1.context] ++ later.mapIdx .after)) := by
    have entered := site.leadIn_watched made world []
    have worked : ∀ log, watchWork work left.1.context (left.2.logging log) =
        (done.1, done.2.logging (log ++ [.work left.1.context])) := fun _ => rfl
    have left_by := CallSite.leadOut_watched made left.1 (errorText? text done.1) done.2
      (earlier.mapIdx .before ++ [.work left.1.context])
    simp only [watched, site.instrument_eq, entered]
    rw [List.nil_append, worked]
    simp only
    rw [left_by]
  have closes := CallSite.closes_closing left.1 (errorText? text done.1) done.2.readClocks.1
  refine ⟨opening, left.1, closing, ended.1, left.2, done.2, earlier, later, rfl, ?_, ?_, ?_, ?_,
    ?_, head?_foundBy made.before opening began.2,
    head?_foundBy made.after closing done.2.readClocks.2,
    site.opens_opening pipeline history began.1, ?_, ?_⟩
  · rw [run]
  · rw [run]
    rfl
  · rw [run]
    exact watched_run
  · rw [← before]
    exact length_foundBy _ _ _
  · rw [← after]
    exact length_foundBy _ _ _
  · rw [run]
    exact closes
  · intro parked
    have lasted := closes.duration
    unfold Operation.elapsed at lasted
    rw [parked] at lasted
    exact lasted

end Tapline
