import Mathlib
import Tapline.Proofs.Pipeline.Loggers
import Tapline.Proofs.Sink.Apart
/-!
# Sinks of a logger do not depend on each other

A logger is compared with its sinks alone: each of them is given the calls that the logger hands on
to it, in surroundings of its own. If the streams are apart then whatever the sinks answer, each of
them comes as far as it does alone, and the answers of the logger are made of those that the sinks
give alone.

## Main result

`sinks_independent`, over any run of calls and of moves of the flushers, and any streams.

## Proof strategy

`Alongside` relates the sinks to those alone, place by place. A call goes through the sinks from the
first to the last. At each place it agrees with the sink alone, and it goes unnoticed at the places
behind and before, so the relation holds again when it has reached the last. The induction over a
run then only has to add up events.
-/

namespace Tapline

variable {δ : Type u} {ε : Type v}

/-- A call on a logger, or a move of the flusher of one of its sinks. -/
inductive LoggerEvent where
  | print (bag : Bag)
  | flush
  | close
  | move (place : Nat) (which : FlusherMove)

/-- What an event is to the sink at a place. -/
def LoggerEvent.forSink (n : Nat) : LoggerEvent → Option SinkEvent
  | print bag => some (.write bag)
  | flush => some .flush
  | close => some .close
  | move place which => if place = n then some (.move which) else none

namespace Logger

variable [ByteStream δ ε]

def handle (logger : Logger δ) (around : ε) : LoggerEvent → LoggerStep δ ε
  | .print bag => logger.print around bag
  | .flush => logger.flush around
  | .close => logger.close around
  | .move place which => logger.moveAt place which around

def after (logger : Logger δ) (around : ε) : List LoggerEvent → Logger δ × ε
  | [] => (logger, around)
  | event :: rest =>
    after (logger.handle around event).logger (logger.handle around event).around rest

end Logger

/-- The sink at a place with nothing done yet. -/
def SinkHistory.start (sink : Sink δ) (around : ε) : SinkHistory δ ε := ⟨sink, around, [], [], 0⟩

/-- A call on a logger, by the answers of its sinks. -/
structure LoggerStep.Gathers (step : LoggerStep δ ε) (answers : List (SinkStep δ ε)) : Prop where
  failures : step.failures = answers.flatMap fun answer => Logger.failureOf answer.result
  notices : step.notices = answers.flatMap SinkStep.notices
  background : step.background = answers.flatMap SinkStep.background

/-! ### Sinks and the same sinks alone -/

/-- Sinks from a place on, and each of them alone. -/
inductive Alongside (alike : Nat → δ → ε → δ → ε → Prop) (around : ε) :
    Nat → List (Sink δ) → List (SinkHistory δ ε) → Prop
  | nil (n : Nat) : Alongside alike around n [] []
  | cons {n : Nat} {sink : Sink δ} {sinks : List (Sink δ)} {history : SinkHistory δ ε}
      {alone : List (SinkHistory δ ε)} (same : history.sink = sink.onto history.sink.stream)
      (stream : alike n sink.stream around history.sink.stream history.around)
      (rest : Alongside alike around (n + 1) sinks alone) :
      Alongside alike around n (sink :: sinks) (history :: alone)

namespace Alongside

variable {alike : Nat → δ → ε → δ → ε → Prop} {around : ε} {n : Nat} {sinks : List (Sink δ)}
  {alone : List (SinkHistory δ ε)}

theorem start (begins : ∀ place sink, sinks[place]? = some sink →
    alike (n + place) sink.stream around sink.stream around) :
    Alongside alike around n sinks (sinks.map (SinkHistory.start · around)) := by
  induction sinks generalizing n with
  | nil => exact .nil n
  | cons sink rest ih =>
    constructor
    · exact (Sink.onto_stream sink).symm
    · exact begins 0 sink rfl
    · apply ih
      intro place later found
      have begun := begins (place + 1) later found
      rwa [← Nat.add_assoc, Nat.add_right_comm] at begun

theorem of_unnoticed (along : Alongside alike around n sinks alone) {left : ε}
    (unnoticed : Unnoticed alike (n ≤ ·) around left) : Alongside alike left n sinks alone := by
  induction along with
  | nil n => exact .nil n
  | @cons n sink sinks history alone same stream rest ih =>
    constructor
    · exact same
    · exact unnoticed n (Nat.le_refl n) _ _ _ stream
    · apply ih
      exact unnoticed.mono fun m behind => by omega

/-- A call on every sink. The induction is on the sinks; what it says of the places before them is
for the sink that was called just before. -/
theorem eachSink {call : Sink δ → ε → SinkStep δ ε} {after : SinkHistory δ ε → SinkHistory δ ε}
    (agrees : ∀ n (sink : Sink δ) around stream' around',
      alike n sink.stream around stream' around' →
        (call sink around).Agrees alike n around (call (sink.onto stream') around'))
    (same : ∀ history, (after history).sink = (call history.sink history.around).sink ∧
      (after history).around = (call history.sink history.around).around)
    (along : Alongside alike around n sinks alone) :
    let step := Logger.eachSink call sinks around
    step.Gathers (alone.map fun history => call history.sink history.around) ∧
      Unnoticed alike (· < n) around step.around ∧
      Alongside alike step.around n step.logger.sinks (alone.map after) := by
  induction sinks generalizing n around alone with
  | nil =>
    cases along
    exact ⟨⟨rfl, rfl, rfl⟩, .refl around, .nil n⟩
  | cons sink rest ih =>
    cases along with
    | @cons _ _ _ history alone shape stream later =>
      have answer := agrees n sink around history.sink.stream history.around stream
      rw [← shape] at answer
      -- The sinks behind do not notice the call on this one.
      have behind : Unnoticed alike (n + 1 ≤ ·) around (call sink around).around :=
        answer.unnoticed.mono fun m above => by omega
      obtain ⟨gathers, before, along⟩ := ih (later.of_unnoticed behind)
      obtain ⟨sink_after, around_after⟩ := same history
      refine ⟨⟨?_, ?_, ?_⟩, ?_, ?_⟩
      · rw [Logger.eachSink, List.map_cons, List.flatMap_cons, answer.result, ← gathers.failures]
      · rw [Logger.eachSink, List.map_cons, List.flatMap_cons, answer.notices, ← gathers.notices]
      · rw [Logger.eachSink, List.map_cons, List.flatMap_cons, answer.background,
          ← gathers.background]
      · have own : Unnoticed alike (· < n) around (call sink around).around :=
          answer.unnoticed.mono fun m below => by omega
        exact own.trans (before.mono fun m below => by omega)
      · constructor
        · rw [sink_after]
          exact answer.sink
        · -- Nor does this one notice the calls on those behind.
          rw [sink_after, around_after]
          exact before n (Nat.lt_succ_self n) _ _ _ answer.stream
        · exact along

/-- What can be seen of the sinks. -/
theorem states {β : Type w} {shown : δ → ε → β} (along : Alongside alike around n sinks alone)
    (tells : ∀ n stream around stream' around', alike n stream around stream' around' →
      shown stream around = shown stream' around') :
    sinks.map (fun sink => (sink.template, sink.closed, shown sink.stream around)) =
      alone.map fun history => (history.sink.template, history.sink.closed,
        shown history.sink.stream history.around) := by
  induction along with
  | nil => rfl
  | @cons n sink sinks history alone same stream rest ih =>
    have template : history.sink.template = sink.template := by
      rw [same]
      rfl
    have closed : history.sink.closed = sink.closed := by
      rw [same]
      rfl
    rw [List.map_cons, List.map_cons, ih, template, closed, tells _ _ _ _ _ stream]

variable [ByteStream δ ε]

/-- A move of the flusher at one place. -/
theorem moveAt (apart : Apart alike) (along : Alongside alike around n sinks alone) (place : Nat)
    (which : FlusherMove) :
    let step := Logger.moveAt ⟨sinks⟩ place which around
    Unnoticed alike (· ≠ n + place) around step.around ∧
      Alongside alike step.around n step.logger.sinks
        (alone.modify place (·.next (.move which))) := by
  induction along generalizing place with
  | nil n => exact ⟨.refl around, by simpa using .nil n⟩
  | @cons n sink sinks history alone same stream rest ih =>
    cases place with
    | zero =>
      have moved := Sink.handle_agrees apart stream (.move which)
      rw [← same] at moved
      constructor
      · exact moved.unnoticed
      · constructor
        · exact moved.sink
        · exact moved.stream
        · apply rest.of_unnoticed
          exact moved.unnoticed.mono fun m above => by omega
    | succ place =>
      obtain ⟨unnoticed, along⟩ := ih place
      have step : Logger.moveAt ⟨sink :: sinks⟩ (place + 1) which around =
          { Logger.moveAt ⟨sinks⟩ place which around with
            logger := ⟨sink :: (Logger.moveAt ⟨sinks⟩ place which around).logger.sinks⟩ } := by
        unfold Logger.moveAt
        simp only [List.getElem?_cons_succ]
        cases sinks[place]? with
        | none => rfl
        | some found => rfl
      intro moved
      simp only [moved, step]
      constructor
      · exact unnoticed.mono fun m other => by omega
      · constructor
        · exact same
        · exact unnoticed n (by omega) _ _ _ stream
        · exact along

theorem print (apart : Apart alike) (along : Alongside alike around n sinks alone) (bag : Bag) :
    let step := Logger.print ⟨sinks⟩ around bag
    step.Gathers (alone.map fun history => Logger.printTo bag history.sink history.around) ∧
      Unnoticed alike (· < n) around step.around ∧
      Alongside alike step.around n step.logger.sinks (alone.map (·.next (.write bag))) := by
  have agrees : ∀ n (sink : Sink δ) around stream' around',
      alike n sink.stream around stream' around' → (Logger.printTo bag sink around).Agrees alike n
        around (Logger.printTo bag (sink.onto stream') around') := by
    intro n sink around stream' around' same
    have written := Sink.write_agrees apart same bag
    have template : (sink.onto stream').template = sink.template := rfl
    refine ⟨written.result, ?_, written.background, written.sink, written.stream,
      written.unnoticed⟩
    rw [Logger.printTo, Logger.printTo, written.result, written.notices, template]
  exact along.eachSink agrees fun history => ⟨rfl, rfl⟩

theorem flush (apart : Apart alike) (along : Alongside alike around n sinks alone) :
    let step := Logger.flush ⟨sinks⟩ around
    step.Gathers (alone.map fun history => history.sink.flush history.around) ∧
      Unnoticed alike (· < n) around step.around ∧
      Alongside alike step.around n step.logger.sinks (alone.map (·.next .flush)) :=
  along.eachSink (fun _ _ _ _ _ same => Sink.handle_agrees apart same .flush) fun _ => ⟨rfl, rfl⟩

theorem close (apart : Apart alike) (along : Alongside alike around n sinks alone) :
    let step := Logger.close ⟨sinks⟩ around
    step.Gathers (alone.map fun history => history.sink.close history.around) ∧
      Unnoticed alike (· < n) around step.around ∧
      Alongside alike step.around n step.logger.sinks (alone.map (·.next .close)) :=
  along.eachSink (fun _ _ _ _ _ same => Sink.handle_agrees apart same .close) fun _ => ⟨rfl, rfl⟩

/-- Each event is to a sink alone what it is to it among the others. -/
theorem handle {logger : Logger δ} (apart : Apart alike)
    (along : Alongside alike around 0 logger.sinks alone) (event : LoggerEvent) :
    Alongside alike (logger.handle around event).around 0
      (logger.handle around event).logger.sinks
      (alone.mapIdx fun n history => history.run (event.forSink n).toList) := by
  have every : ∀ event : SinkEvent, alone.mapIdx (fun _ history => history.run [event]) =
      alone.map (·.next event) := by
    intro event
    apply List.ext_getElem?
    intro n
    rw [List.getElem?_mapIdx, List.getElem?_map]
    rfl
  cases event with
  | print bag =>
    have printed := (along.print apart bag).2.2
    rw [← every] at printed
    exact printed
  | flush =>
    have flushed := (along.flush apart).2.2
    rw [← every] at flushed
    exact flushed
  | close =>
    have closed := (along.close apart).2.2
    rw [← every] at closed
    exact closed
  | move place which =>
    have moved := (along.moveAt apart place which).2
    have one : alone.modify place (·.next (.move which)) = alone.mapIdx fun n history =>
        history.run ((LoggerEvent.move place which).forSink n).toList := by
      apply List.ext_getElem?
      intro n
      rw [List.getElem?_modify, List.getElem?_mapIdx]
      by_cases own : place = n
      · have reaches : (LoggerEvent.move place which).forSink n = some (.move which) := if_pos own
        simp only [if_pos own, reaches]
        rfl
      · have misses : (LoggerEvent.move place which).forSink n = none := if_neg own
        simp only [if_neg own, misses]
        rfl
    rw [← one]
    exact moved

/-- **The sinks of a logger come as far as they do alone.** -/
theorem after {logger : Logger δ} (apart : Apart alike)
    (along : Alongside alike around 0 logger.sinks alone) (events : List LoggerEvent) :
    Alongside alike (logger.after around events).2 0 (logger.after around events).1.sinks
      (alone.mapIdx fun n history => history.run (events.filterMap (LoggerEvent.forSink n))) := by
  induction events generalizing logger around alone with
  | nil =>
    have same : alone.mapIdx (fun _ history => SinkHistory.run history []) = alone := by
      apply List.ext_getElem?
      intro n
      rw [List.getElem?_mapIdx]
      exact Option.map_id'
    rw [Logger.after]
    simp only [List.filterMap_nil]
    rw [same]
    exact along
  | cons event rest ih =>
    have first := along.handle apart event
    have later := ih first
    rw [List.mapIdx_mapIdx] at later
    -- The events of a sink are the first, if it is for this sink, and the others.
    have split : ∀ n (history : SinkHistory δ ε),
        history.run ((event :: rest).filterMap (LoggerEvent.forSink n)) =
          (history.run (event.forSink n).toList).run
            (rest.filterMap (LoggerEvent.forSink n)) := by
      intro n history
      rw [List.filterMap_cons]
      cases event.forSink n with
      | none => rfl
      | some event => rfl
    rw [Logger.after]
    simp only [split]
    exact later

end Alongside

/-! ### Answers -/

/-- A call that tells the first failure after all sinks have answered. -/
structure LoggerStep.TellsFirst (step : LoggerStep δ ε) (answers : List (SinkStep δ ε)) : Prop where
  ok : step.first = .ok () ↔ ∀ answer ∈ answers, answer.result = .ok ()
  error : ∀ cause, step.first = .error cause ↔ ∃ earlier answer later,
    answers = earlier ++ answer :: later ∧ (∀ other ∈ earlier, other.result = .ok ()) ∧
      answer.result = .error cause

/-- A call that tells every failure, in the order of the sinks. -/
structure LoggerStep.TellsAll (step : LoggerStep δ ε) (answers : List (SinkStep δ ε)) : Prop where
  ok : step.all = .ok () ↔ ∀ answer ∈ answers, answer.result = .ok ()
  error : ∀ failed, step.all = .error failed →
    failed.failures = answers.flatMap fun answer => Logger.failureOf answer.result

namespace LoggerStep

variable {step : LoggerStep δ ε} {answers : List (SinkStep δ ε)}

theorem failures_eq_nil_iff (answers : List (SinkStep δ ε)) :
    (answers.flatMap fun answer => Logger.failureOf answer.result) = [] ↔
      ∀ answer ∈ answers, answer.result = .ok () := by
  rw [List.flatMap_eq_nil_iff]
  constructor
  · intro none_failed answer member
    have nothing := none_failed answer member
    cases result : answer.result with
    | ok => rfl
    | error cause =>
      rw [result] at nothing
      cases nothing
  · intro all_ok answer member
    rw [all_ok answer member]
    rfl

/-- The first of the failures is that of the first answer that is one. -/
theorem failures_eq_cons_iff (answers : List (SinkStep δ ε)) (cause : SinkError) :
    (∃ others, (answers.flatMap fun answer => Logger.failureOf answer.result) = cause :: others) ↔
      ∃ earlier answer later, answers = earlier ++ answer :: later ∧
        (∀ other ∈ earlier, other.result = .ok ()) ∧ answer.result = .error cause := by
  constructor
  · rintro ⟨others, failed⟩
    induction answers with
    | nil => cases failed
    | cons answer rest ih =>
      rw [List.flatMap_cons] at failed
      cases result : answer.result with
      | error first =>
        rw [result] at failed
        obtain rfl : first = cause := (List.cons.inj failed).1
        exact ⟨[], answer, rest, rfl, nofun, result⟩
      | ok =>
        rw [result] at failed
        obtain ⟨earlier, found, later, split, before, error⟩ := ih failed
        refine ⟨answer :: earlier, found, later, by rw [split]; rfl, ?_, error⟩
        intro other member
        rcases List.mem_cons.mp member with rfl | member
        · exact result
        · exact before other member
  · rintro ⟨earlier, answer, later, rfl, before, error⟩
    have nothing := (failures_eq_nil_iff earlier).mpr before
    rw [List.flatMap_append, nothing, List.flatMap_cons, error]
    exact ⟨_, rfl⟩

theorem tellsFirst
    (failures : step.failures = answers.flatMap fun answer => Logger.failureOf answer.result) :
    step.TellsFirst answers := by
  constructor
  · rw [← failures_eq_nil_iff, ← failures, first]
    cases step.failures with
    | nil => exact ⟨fun _ => rfl, fun _ => rfl⟩
    | cons cause rest => exact ⟨nofun, nofun⟩
  · intro cause
    rw [← failures_eq_cons_iff, ← failures, first]
    cases step.failures with
    | nil => exact ⟨nofun, fun ⟨_, failed⟩ => nomatch failed⟩
    | cons first rest =>
      constructor
      · intro same
        rw [Except.error.inj same]
        exact ⟨rest, rfl⟩
      · rintro ⟨others, same⟩
        rw [(List.cons.inj same).1]

theorem tellsAll
    (failures : step.failures = answers.flatMap fun answer => Logger.failureOf answer.result) :
    step.TellsAll answers := by
  constructor
  · rw [← failures_eq_nil_iff, ← failures, all, CloseError.toResult]
    cases step.failures with
    | nil => exact ⟨fun _ => rfl, fun _ => rfl⟩
    | cons cause rest => exact ⟨nofun, nofun⟩
  · intro failed told
    rw [← failures]
    unfold all CloseError.toResult at told
    split at told
    · cases told
    · cases told
      rfl

end LoggerStep

/-! ### The main result -/

section

variable [ByteStream δ ε]

/-- **Sinks are independent.** After any run of calls and moves, over streams that are apart, every
sink has the template, the state and the content that it has alone. The next call answers with what
the sinks answer alone: printing and flushing with the first failure, closing with all of them, and
printing notes one failure for each sink that fails. Once the logger has been closed, closing it
succeeds. A direct stream that crashes ends the program, as its notice says; it has no next call. -/
theorem sinks_independent {alike : Nat → δ → ε → δ → ε → Prop} (apart : Apart alike)
    {β : Type w} {shown : δ → ε → β}
    (tells : ∀ n stream around stream' around', alike n stream around stream' around' →
      shown stream around = shown stream' around')
    {logger : Logger δ} {around : ε}
    (begins : ∀ n sink, logger.sinks[n]? = some sink →
      alike n sink.stream around sink.stream around)
    (events : List LoggerEvent) :
    let alone := logger.sinks.mapIdx fun n sink =>
      (SinkHistory.start sink around).run (events.filterMap (LoggerEvent.forSink n))
    let reached := (logger.after around events).1
    let left := (logger.after around events).2
    reached.sinks.map (fun sink => (sink.template, sink.closed, shown sink.stream left)) =
      alone.map (fun history => (history.sink.template, history.sink.closed,
        shown history.sink.stream history.around)) ∧
    (∀ bag,
      (reached.print left bag).TellsFirst
          (alone.map fun history => history.sink.write history.around bag) ∧
        (reached.print left bag).notices = alone.flatMap fun history =>
          let answer := history.sink.write history.around bag
          answer.notices ++ (Logger.failureOf answer.result).map
            (Notice.sinkFailed history.sink.template.source)) ∧
    (reached.flush left).TellsFirst
      (alone.map fun history => history.sink.flush history.around) ∧
    (reached.close left).TellsAll (alone.map fun history => history.sink.close history.around) ∧
    (.close ∈ events → (reached.close left).all = .ok ()) := by
  intro alone reached left
  have along : Alongside alike left 0 reached.sinks alone := by
    have begun : Alongside alike around 0 logger.sinks
        (logger.sinks.map (SinkHistory.start · around)) :=
      .start fun place sink found => by
        rw [Nat.zero_add]
        exact begins place sink found
    have ended := begun.after apart events
    have each : (logger.sinks.map (SinkHistory.start · around)).mapIdx (fun n history =>
        history.run (events.filterMap (LoggerEvent.forSink n))) = alone := by
      apply List.ext_getElem?
      intro n
      rw [List.getElem?_mapIdx, List.getElem?_map, List.getElem?_mapIdx, Option.map_map]
      rfl
    rw [each] at ended
    exact ended
  refine ⟨along.states tells, fun bag => ?_, ?_, ?_, ?_⟩
  · -- A failure is noted besides, which changes no answer.
    obtain ⟨printed, -, -⟩ := along.print apart bag
    have failures := printed.failures
    have notices := printed.notices
    rw [List.flatMap_map] at failures notices
    constructor
    · apply LoggerStep.tellsFirst
      rw [List.flatMap_map]
      exact failures
    · exact notices
  · exact LoggerStep.tellsFirst (along.flush apart).1.failures
  · exact LoggerStep.tellsAll (along.close apart).1.failures
  · intro closing
    apply (LoggerStep.tellsAll (along.close apart).1.failures).ok.mpr
    intro answer member
    obtain ⟨history, ran, rfl⟩ := List.mem_map.mp member
    obtain ⟨n, inside, rfl⟩ := List.mem_mapIdx.mp ran
    have shut : ((SinkHistory.start logger.sinks[n] around).run
        (events.filterMap (LoggerEvent.forSink n))).sink.closed = true := by
      rw [SinkHistory.closed_run]
      have reached : SinkEvent.close ∈ events.filterMap (LoggerEvent.forSink n) :=
        List.mem_filterMap.mpr ⟨.close, closing, rfl⟩
      rw [List.any_eq_true.mpr ⟨.close, reached, rfl⟩, Bool.or_true]
    rw [Sink.close, if_pos shut]
    rfl

end

/-- Memory behind a flusher and the terminal, next to a stream that rejects everything. -/
theorem memory_beside_rejecting :
    let flusher : Flusher HostStream := ⟨.memory .empty, 100, [], .empty, true⟩
    let logger : Logger HostStream := ⟨[⟨keyTemplate, .direct .rejecting, false⟩,
      ⟨keyTemplate, .batched flusher, false⟩, ⟨keyTemplate, .direct .terminal, false⟩]⟩
    let events : List LoggerEvent :=
      [.print (keyBag "a"), .move 1 .receive, .print (keyBag "b"), .flush]
    let reached := logger.after default events
    Apart (HostStream.Alike 0 2) ∧
      (∀ n sink, logger.sinks[n]? = some sink →
        HostStream.Alike 0 2 n sink.stream default sink.stream default) ∧
      reached.1.sinks.map (fun sink => sink.stream.held reached.2) =
        [.empty, "a\nb\n".toUTF8, "a\nb\n".toUTF8] ∧
      (reached.1.print reached.2 (keyBag "c")).first = .error (.io (.other "write rejected")) := by
  intro flusher logger events reached
  have begins : ∀ n sink, logger.sinks[n]? = some sink →
      HostStream.Alike 0 2 n sink.stream default sink.stream default := by
    intro n sink found
    match n with
    | 0 | 1 =>
      obtain rfl := Option.some.inj found
      exact ⟨rfl, trivial⟩
    | 2 =>
      obtain rfl := Option.some.inj found
      exact ⟨rfl, rfl, rfl⟩
  have tells : ∀ n stream (host : Host) stream' host',
      HostStream.Alike 0 2 n stream host stream' host' →
        stream.held host = stream'.held host' := fun _ _ _ _ _ => HostStream.held_of_alike
  have apart := HostStream.apart_host 0 2
  obtain ⟨states, prints, -⟩ := sinks_independent apart tells begins events
  refine ⟨apart, begins, ?_, ?_⟩
  · have contents := congrArg (List.map fun state => state.2.2) states
    simp only [List.map_map, Function.comp_def] at contents
    rw [contents]
    cbv
  · obtain ⟨printed, -⟩ := prints (keyBag "c")
    simp only [logger, List.mapIdx_cons, List.map_cons] at printed
    -- The stream that rejects everything comes first.
    apply (printed.error _).mpr
    refine ⟨[], _, _, rfl, ?_, ?_⟩
    · intro other member
      cases member
    · cbv

end Tapline
