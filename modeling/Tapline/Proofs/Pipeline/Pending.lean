import Tapline.Handler.Argument
import Tapline.Proofs.Pipeline.SideBySide
/-!
# Calls in parts

A call whose work is done in parts makes the same calls as one whose work is done at once: nothing
before it is first polled, then the chain before and the work, and the chain after with the last
part.

## Main result

`pending_call_agrees`.

## Proof strategy

Polling is counted down over the parts (`pollMany_working`), and the first poll only enters the call
site in addition (`pollMany_waiting`). So all parts together are the call with the work of all of
them. The two runs are then compared side by side: in a likeness which is equality, and in one for
runs with other clocks.
-/

namespace Tapline

variable {δ ε υ φ α σ : Type}

/-! ### Tasks -/

namespace Task

/-- What the first parts of a task leave. -/
def firstParts : Nat → Task σ α → σ → σ
  | n + 1, .wait work rest, state => rest.firstParts n (work state)
  | _, _, state => state

/-- A task that knows nothing of the log. -/
def aside : Task (World δ ε υ) α → Task (World δ ε (υ × List SiteCall)) α
  | .last work => .last fun world =>
    ((work world.unlogged).1, (work world.unlogged).2.logging world.own.2)
  | .wait work rest => .wait (fun world => (work world.unlogged).logging world.own.2) rest.aside

/-- A task that begins with something. -/
def startingWith (first : σ → σ) : Task σ α → Task σ α
  | .last work => .last fun state => work (first state)
  | .wait work rest => .wait (fun state => work (first state)) rest

theorem parts_pos (task : Task σ α) : 0 < task.parts := by
  cases task <;> exact Nat.succ_pos _

theorem parts_aside (task : Task (World δ ε υ) α) : task.aside.parts = task.parts := by
  induction task with
  | last work => rfl
  | wait work rest ih => exact congrArg Nat.succ ih

theorem parts_startingWith (first : σ → σ) (task : Task σ α) :
    (task.startingWith first).parts = task.parts := by
  cases task <;> rfl

theorem runAll_aside (task : Task (World δ ε υ) α) (world : World δ ε (υ × List SiteCall)) :
    task.aside.runAll world =
      ((task.runAll world.unlogged).1, (task.runAll world.unlogged).2.logging world.own.2) := by
  induction task generalizing world with
  | last work => rfl
  | wait work rest ih => exact ih ((work world.unlogged).logging world.own.2)

theorem runAll_startingWith (first : σ → σ) (task : Task σ α) (state : σ) :
    (task.startingWith first).runAll state = task.runAll (first state) := by
  cases task <;> rfl

theorem log_firstParts_aside (task : Task (World δ ε υ) α) (n : Nat)
    (world : World δ ε (υ × List SiteCall)) :
    (task.aside.firstParts n world).own.2 = world.own.2 := by
  induction task generalizing n world with
  | last work => cases n <;> rfl
  | wait work rest ih =>
    cases n with
    | zero => rfl
    | succ n => exact ih n ((work world.unlogged).logging world.own.2)

end Task

/-- Work in parts that is watched: its first part tells of the context. -/
def watchTask (task : Context → Task (World δ ε υ) (Except φ α)) (context : Context) :
    Task (World δ ε (υ × List SiteCall)) (Except φ α) :=
  (task context).aside.startingWith fun world =>
    world.unlogged.logging (world.own.2 ++ [.work context])

theorem runAll_watchTask (task : Context → Task (World δ ε υ) (Except φ α)) (context : Context) :
    (watchTask task context).runAll = watchWork (fun context => (task context).runAll) context := by
  funext world
  rw [watchTask, Task.runAll_startingWith, Task.runAll_aside]
  rfl

theorem parts_watchTask (task : Context → Task (World δ ε υ) (Except φ α)) (context : Context) :
    (watchTask task context).parts = (task context).parts := by
  rw [watchTask, Task.parts_startingWith, Task.parts_aside]

/-- Before the last part, the log tells of the context and of nothing else. -/
theorem log_firstParts_watchTask (task : Context → Task (World δ ε υ) (Except φ α))
    (context : Context) {n : Nat} (begun : 0 < n) (unfinished : n < (task context).parts)
    (world : World δ ε (υ × List SiteCall)) :
    ((watchTask task context).firstParts n world).own.2 = world.own.2 ++ [.work context] := by
  cases n with
  | zero => exact absurd begun (Nat.lt_irrefl 0)
  | succ n =>
    unfold watchTask
    cases found : task context with
    | last work =>
      rw [found] at unfinished
      exact absurd unfinished (Nat.not_lt.mpr (Nat.succ_pos n))
    | wait work rest => exact rest.log_firstParts_aside n _

/-! ### Polling -/

namespace PendingCall

variable (pipeline : Pipeline δ ε υ) (text : φ → String)

/-- Polling a call whose work is under way. -/
theorem pollMany_working (hook : Hook δ ε υ) (task : Task (World δ ε υ) (Except φ α)) (polls : Nat)
    (world : World δ ε υ) :
    pollMany pipeline text polls (.working hook task) world =
      if task.parts ≤ polls then
        let done := task.runAll world
        (some done.1, task.parts, (CallSite.leave hook (errorText? text done.1) done.2).2)
      else (none, polls, task.firstParts polls world) := by
  induction task generalizing polls world with
  | last work =>
    cases polls with
    | zero => rfl
    | succ n =>
      have enough : (Task.last work).parts ≤ n + 1 := Nat.succ_le_succ (Nat.zero_le n)
      rw [if_pos enough]
      rfl
  | wait work rest ih =>
    cases polls with
    | zero => rfl
    | succ n =>
      -- One poll does the first part, and the others are those of the rest.
      have step : pollMany pipeline text (n + 1) (.working hook (.wait work rest)) world =
          let polled := pollMany pipeline text n (.working hook rest) (work world)
          (polled.1, polled.2.1 + 1, polled.2.2) := rfl
      rw [step, ih]
      by_cases enough : rest.parts ≤ n
      · have enough' : (Task.wait work rest).parts ≤ n + 1 := Nat.succ_le_succ enough
        rw [if_pos enough, if_pos enough']
        rfl
      · have enough' : ¬ (Task.wait work rest).parts ≤ n + 1 := fun all =>
          enough (Nat.le_of_succ_le_succ all)
        rw [if_neg enough, if_neg enough']
        rfl

/-- The first poll enters the call site, and then does the first part. -/
theorem pollMany_waiting (site : CallSite) (task : Context → Task (World δ ε υ) (Except φ α))
    {polls : Nat} (begun : 0 < polls) (world : World δ ε υ) :
    let left := site.leadIn pipeline world
    pollMany pipeline text polls (.waiting site task) world =
      if (task left.1.context).parts ≤ polls then
        let called := site.instrument pipeline text (fun context => (task context).runAll) world
        (some called.1, (task left.1.context).parts, called.2)
      else (none, polls, (task left.1.context).firstParts polls left.2) := by
  intro left
  cases polls with
  | zero => exact absurd begun (Nat.lt_irrefl 0)
  | succ n =>
    exact pollMany_working pipeline text (site.enter pipeline world).1 (task left.1.context) (n + 1)
      (site.enter pipeline world).2

end PendingCall

/-- What comes of polls, one number of them after the other, against the call with the work of all
parts. Nothing has happened before the first poll. Until the last part is done, the calls are those
of the chain before and the work. From then on all is as if the work had been done at once. -/
structure PollsLike (agree : World δ ε (υ × List SiteCall) → World δ ε (υ × List SiteCall) → Prop)
    (called : Except φ α × World δ ε (υ × List SiteCall)) (start : World δ ε (υ × List SiteCall))
    (parts : Nat) (polled : Nat → Option (Except φ α) × Nat × World δ ε (υ × List SiteCall)) :
    Prop where
  unpolled : polled 0 = (none, 0, start)
  waiting : ∀ polls, 0 < polls → polls < parts →
    (polled polls).1 = none ∧ (polled polls).2.1 = polls ∧
      ∃ later, called.2.own.2 = (polled polls).2.2.own.2 ++ later ∧
        ∀ call ∈ later, ∃ place found, call = .after place found
  done : ∀ polls, parts ≤ polls →
    (polled polls).1 = some called.1 ∧ (polled polls).2.1 = parts ∧
      agree called.2 (polled polls).2.2

/-- The chain after adds its own calls to the log. -/
theorem exists_log_leadOut (shown : Operation → Operation) (pipeline : Pipeline δ ε υ)
    (left : Operation) (error : Option String) (world : World δ ε (υ × List SiteCall)) :
    ∃ later, (CallSite.leadOut (pipeline.watchedAs shown) left error world).2.own.2 =
        world.own.2 ++ later ∧ ∀ call ∈ later, ∃ place found, call = .after place found := by
  have ran := runHandlers_watchChain (fun place op => .after place (shown op)) pipeline.after
    (CallSite.closing left error world.readClocks.1) world.readClocks.2.unlogged world.own.2
  refine ⟨_, congrArg (fun state => state.2.own.2) ran, ?_⟩
  intro call member
  obtain ⟨place, inside, rfl⟩ := List.mem_mapIdx.mp member
  exact ⟨place, _, rfl⟩

namespace CallSite

variable (site : CallSite) (pipeline : Pipeline δ ε υ) (shown : Operation → Operation)
  (text : φ → String) (world : World δ ε υ)

/-- A call whose work is done at once, with the log of what it shows. -/
def atOnce (work : Context → World δ ε υ → Except φ α × World δ ε υ) :
    Except φ α × World δ ε (υ × List SiteCall) :=
  site.instrument (pipeline.watchedAs shown) text (watchWork work) (world.logging [])

/-- A call whose work is done in parts, after some polls, with the log of what it shows. -/
def inParts (task : Context → Task (World δ ε υ) (Except φ α)) (polls : Nat) :
    Option (Except φ α) × Nat × World δ ε (υ × List SiteCall) :=
  PendingCall.pollMany (pipeline.watchedAs shown) text polls (.waiting site (watchTask task))
    (world.logging [])

theorem leadIn_watchedAs (log : List SiteCall) :
    (site.leadIn (pipeline.watchedAs shown) (world.logging log)).1 =
      (site.leadIn pipeline world).1 :=
  congrArg Prod.fst (runHandlers_watchChain (fun place op => .before place (shown op))
    pipeline.before (site.opening pipeline world.readClocks.1) world.readClocks.2 log)

/-- How many parts the work of a call has. -/
def parts (task : Context → Task (World δ ε υ) (Except φ α)) : Nat :=
  (task (site.leadIn pipeline world).1.context).parts

/-- Polls to the end are the call with the work of all parts. -/
theorem inParts_eq (task : Context → Task (World δ ε υ) (Except φ α)) {polls : Nat}
    (begun : 0 < polls) :
    site.inParts pipeline shown text world task polls =
      if site.parts pipeline world task ≤ polls then
        let called := site.atOnce pipeline shown text world fun context => (task context).runAll
        (some called.1, site.parts pipeline world task, called.2)
      else
        let entered := site.leadIn (pipeline.watchedAs shown) (world.logging [])
        (none, polls, (watchTask task entered.1.context).firstParts polls entered.2) := by
  have polled := PendingCall.pollMany_waiting (pipeline.watchedAs shown) text site (watchTask task)
    begun (world.logging [])
  have same_work : (fun context => (watchTask task context).runAll) =
      watchWork fun context => (task context).runAll := funext (runAll_watchTask task)
  have same_parts : (watchTask task
      (site.leadIn (pipeline.watchedAs shown) (world.logging [])).1.context).parts =
      site.parts pipeline world task := by
    rw [parts_watchTask, leadIn_watchedAs]
    rfl
  simp only [same_work, same_parts] at polled
  exact polled

end CallSite

/-- Polls go like the call at another site, if the two sites keep a likeness. -/
theorem pollsLike_of_joins {like : Likeness δ ε υ δ ε υ} {site site' : CallSite}
    {pipeline : Pipeline δ ε υ} {work : Context → World δ ε υ → Except φ α × World δ ε υ}
    {task : Context → Task (World δ ε υ) (Except φ α)}
    (joins : like.Joins site site' pipeline pipeline work fun context => (task context).runAll)
    (kept : ∀ handler ∈ pipeline.before ++ pipeline.after, like.Kept handler handler)
    (text : φ → String) {world world' : World δ ε υ} (alike : like.world world world') :
    PollsLike like.logging.world (site.atOnce pipeline like.shown text world work)
      (world'.logging []) (site'.parts pipeline world' task)
      (site'.inParts pipeline like.shown text world' task) := by
  have begins : like.logging.world (world.logging []) (world'.logging []) := ⟨alike, rfl⟩
  obtain ⟨answer, worlds⟩ := (joins.watched kept).instrument text begins
  constructor
  · rfl
  · intro polls begun unfinished
    rw [CallSite.inParts_eq _ _ _ _ _ _ begun, if_neg (Nat.not_le.mpr unfinished)]
    refine ⟨rfl, rfl, ?_⟩
    have unfinished' : polls < (task (site'.leadIn (pipeline.watchedAs like.shown)
        (world'.logging [])).1.context).parts := by
      rw [CallSite.leadIn_watchedAs]
      exact unfinished
    rw [log_firstParts_watchTask task _ begun unfinished', CallSite.atOnce, worlds.2,
      CallSite.instrument_eq]
    exact exists_log_leadOut like.shown pipeline _ _ _
  · intro polls enough
    have begun : 0 < polls := Nat.lt_of_lt_of_le (Task.parts_pos _) enough
    rw [CallSite.inParts_eq _ _ _ _ _ _ begun, if_pos enough]
    exact ⟨congrArg some answer.symm, rfl, worlds⟩

/-! ### Other clocks, another place -/

namespace Operation

/-- The arguments that come from the clocks, and the one that tells of the place. -/
def clockNames : List String := ["start_time", "source", "end_time", "duration"]

/-- An operation without what the clocks and the place make of it. -/
def untimed (op : Operation) : Operation :=
  { op with
    bag := clockNames.foldl KeyMap.erase op.bag
    extensions := op.extensions.take .startInstant }

theorem get?_untimed (op : Operation) (key : String) :
    op.untimed.bag.get? key = if key ∈ clockNames then none else op.bag.get? key := by
  simp only [untimed, clockNames, List.foldl_cons, List.foldl_nil, KeyMap.get?_erase,
    List.mem_cons, List.not_mem_nil, or_false]
  grind

theorem untimed_eq_iff {op op' : Operation} :
    op.untimed = op'.untimed ↔ op.context = op'.context ∧ op.logger = op'.logger ∧
      (∀ key, key ∉ clockNames → op.bag.get? key = op'.bag.get? key) ∧
      ∀ type, type ≠ .startInstant → op.extensions.get? type = op'.extensions.get? type := by
  constructor
  · intro same
    have context : op.untimed.context = op'.untimed.context := by rw [same]
    have logger : op.untimed.logger = op'.untimed.logger := by rw [same]
    refine ⟨context, logger, ?_, ?_⟩
    · intro key other
      have found := congrArg (fun op => op.bag.get? key) same
      simp only [get?_untimed, if_neg other] at found
      exact found
    · intro type other
      have found := congrArg (fun op => op.extensions.get? type) same
      simp only [untimed, Slots.get?_take, if_neg (Ne.symm other)] at found
      exact found
  · rintro ⟨context, logger, bag, extensions⟩
    have same_bag : op.untimed.bag = op'.untimed.bag := by
      apply KeyMap.ext_get?
      intro key
      rw [get?_untimed, get?_untimed]
      split
      · rfl
      next other => exact bag key other
    have same_extensions : op.untimed.extensions = op'.untimed.extensions := by
      apply congrArg Slots.mk
      funext type
      split
      · rfl
      next other => exact extensions type (Ne.symm other)
    exact (Operation.mk.injEq ..).mpr ⟨same_bag, context, logger, same_extensions⟩

variable {op op' : Operation}

theorem untimed_set_of_clock (op : Operation) {name : String} (clock : name ∈ clockNames)
    (value : Value) : (op.set name value).untimed = op.untimed := by
  rw [untimed_eq_iff]
  refine ⟨rfl, rfl, fun key other => ?_, fun _ _ => rfl⟩
  rw [get?_set, if_neg]
  rintro rfl
  exact other clock

theorem untimed_set (same : op.untimed = op'.untimed) (name : String) (value : Value) :
    (op.set name value).untimed = (op'.set name value).untimed := by
  obtain ⟨context, logger, bag, extensions⟩ := untimed_eq_iff.mp same
  rw [untimed_eq_iff]
  refine ⟨context, logger, fun key other => ?_, extensions⟩
  rw [get?_set, get?_set, bag key other]

theorem untimed_setRequestArgs (same : op.untimed = op'.untimed) :
    op.setRequestArgs.untimed = op'.setRequestArgs.untimed := by
  -- What is told of the request depends on the context only.
  have context : op.context = op'.context := (untimed_eq_iff.mp same).1
  unfold setRequestArgs
  rw [context]
  apply untimed_set
  apply untimed_set
  exact untimed_set same _ _

/-- What the chain before finds, on other clocks and at another place. -/
theorem untimed_opening (site : CallSite) (location : String) (pipeline : Pipeline δ ε υ)
    (began began' : ClockReading) :
    (site.opening pipeline began).untimed =
      ({ site with location : CallSite }.opening pipeline began').untimed := by
  apply untimed_setRequestArgs
  apply untimed_set
  repeat rw [untimed_set_of_clock _ (by decide)]
  rw [untimed_eq_iff]
  refine ⟨rfl, rfl, fun _ _ => rfl, fun type other => ?_⟩
  rw [Slots.get?_put, Slots.get?_put, dif_neg (Ne.symm other), dif_neg (Ne.symm other)]

/-- What the chain after finds, on other clocks. -/
theorem untimed_closing (error : Option String) (same : op.untimed = op'.untimed)
    (ended ended' : ClockReading) :
    (CallSite.closing op error ended).untimed = (CallSite.closing op' error ended').untimed := by
  have finished : ∀ (left : Operation) (ended : ClockReading),
      (({ left with extensions := left.extensions.take .startInstant }.set ArgName.endTime
        (.time ended.wall)).set ArgName.duration (.duration (left.elapsed ended))).untimed =
      left.untimed := by
    intro left ended
    repeat rw [untimed_set_of_clock _ (by decide)]
    rw [untimed_eq_iff]
    refine ⟨rfl, rfl, fun _ _ => rfl, fun type other => ?_⟩
    rw [Slots.get?_take, if_neg (Ne.symm other)]
  have ends := (finished op ended).trans (same.trans (finished op' ended').symm)
  cases error with
  | none => exact untimed_setRequestArgs ends
  | some message => exact untimed_setRequestArgs (untimed_set ends _ _)

end Operation

theorem World.ext_logging {world world' : World δ ε (υ × List SiteCall)}
    (worlds : world.unlogged = world'.unlogged) (logs : world.own.2 = world'.own.2) :
    world = world' := by
  have whole : ∀ world : World δ ε (υ × List SiteCall),
      world = world.unlogged.logging world.own.2 := fun _ => rfl
  rw [whole world, whole world', worlds, logs]

namespace Likeness

/-- Runs that do not differ. -/
def equal : Likeness δ ε υ δ ε υ where
  shown := id
  world := Eq
  context same := congrArg Operation.context same
  readClocks same := congrArg (fun world => world.readClocks.2) same

theorem kept_equal (handler : Handler δ ε υ) : equal.Kept handler handler := by
  rintro op _ world _ rfl rfl
  exact ⟨rfl, rfl⟩

theorem joins_equal (site : CallSite) (pipeline : Pipeline δ ε υ)
    (work : Context → World δ ε υ → Except φ α × World δ ε υ) :
    equal.Joins site site pipeline pipeline work work := by
  constructor
  · exact kept_equal (runHandlers pipeline.before)
  · exact kept_equal (runHandlers pipeline.after)
  · rintro world _ rfl
    rfl
  · rintro left _ error world _ rfl rfl
    rfl
  · rintro context world _ rfl
    exact ⟨rfl, rfl⟩

/-- Runs that may differ in the clocks and in the place of the call, over worlds that are the same
in some other respect. -/
def butClocks (same : World δ ε υ → World δ ε υ → Prop)
    (reads : ∀ {world world'}, same world world' → same world.readClocks.2 world'.readClocks.2) :
    Likeness δ ε υ δ ε υ where
  shown := Operation.untimed
  world := same
  context same := (Operation.untimed_eq_iff.mp same).1
  readClocks := reads

end Likeness

/-- **A call in parts agrees with a call at once.** Whatever the handlers do, the call whose work is
done in parts gives the same answer after its last part, in the same world and with the same log of
handlers and work, given the same clocks and the same place; before the first poll nothing has
happened. On other clocks and at another place, handlers and work that keep worlds alike in some
respect, and do not look at what comes from the clocks and the place, see the same in all else. -/
theorem pending_call_agrees (site : CallSite) (pipeline : Pipeline δ ε υ) (text : φ → String)
    (work : Context → World δ ε υ → Except φ α × World δ ε υ)
    (task : Context → Task (World δ ε υ) (Except φ α)) (world : World δ ε υ) :
    ((∀ context, (task context).runAll = work context) →
      PollsLike Eq (site.atOnce pipeline id text world work) (world.logging [])
        (site.parts pipeline world task) (site.inParts pipeline id text world task)) ∧
    ∀ (location : String) (world' : World δ ε υ) (same : World δ ε υ → World δ ε υ → Prop)
      (reads : ∀ {world world'}, same world world' → same world.readClocks.2 world'.readClocks.2),
      let like := Likeness.butClocks same reads
      let site' := { site with location : CallSite }
      (∀ handler ∈ pipeline.before ++ pipeline.after, like.Kept handler handler) →
      (∀ context world world', same world world' →
        (work context world).1 = ((task context).runAll world').1 ∧
          same (work context world).2 ((task context).runAll world').2) →
      same world world' →
      PollsLike like.logging.world (site.atOnce pipeline .untimed text world work)
        (world'.logging []) (site'.parts pipeline world' task)
        (site'.inParts pipeline .untimed text world' task) := by
  constructor
  · intro completes
    have joins : Likeness.equal.Joins site site pipeline pipeline work
        fun context => (task context).runAll := by
      rw [funext completes]
      exact Likeness.joins_equal site pipeline work
    obtain ⟨unpolled, waiting, done⟩ := pollsLike_of_joins joins
      (fun handler _ => Likeness.kept_equal handler) text (rfl : world = world)
    refine ⟨unpolled, waiting, fun polls enough => ?_⟩
    obtain ⟨answer, number, worlds, logs⟩ := done polls enough
    exact ⟨answer, number, World.ext_logging worlds logs⟩
  · intro location world' same reads like site' kept completes alike
    have joins : like.Joins site site' pipeline pipeline work
        fun context => (task context).runAll := by
      constructor
      · apply Likeness.kept_runHandlers
        exact fun handler member => kept handler (List.mem_append_left _ member)
      · apply Likeness.kept_runHandlers
        exact fun handler member => kept handler (List.mem_append_right _ member)
      · intro world world' alike
        exact Operation.untimed_opening site location pipeline _ _
      · intro left left' error world world' shown alike
        exact Operation.untimed_closing error shown _ _
      · exact completes
    exact pollsLike_of_joins joins kept text alike

/-- Work that waits once and then fails, on clocks that are set apart and at another place. -/
theorem pending_call_of_two_parts :
    let site : CallSite := ⟨.background, "op", "main.rs:3", .empty⟩
    let pipeline : Pipeline Unit Unit (List String) :=
      ⟨.empty, [.set "k" (.text "v")],
        [fun op world => (op, { world with own := world.own ++ [op.bag.text "k"] })], none⟩
    let noting (text : String) (world : World Unit Unit (List String)) :=
      { world with own := world.own ++ [text] }
    let work := fun (_ : Context) world =>
      ((.error "late" : Except String Nat), noting "second" (noting "first" world))
    let task := fun (_ : Context) =>
      Task.wait (noting "first") (.last fun world => (.error "late", noting "second" world))
    let same : World Unit Unit (List String) → World Unit Unit (List String) → Prop :=
      fun world world' => world.own = world'.own
    let world : World Unit Unit (List String) := .fresh () (.counting ⟨0, 0⟩) []
    let world' : World Unit Unit (List String) := .fresh () (.counting ⟨1000, 5⟩) []
    let like : Likeness Unit Unit (List String) Unit Unit (List String) := .butClocks same id
    let site' := { site with location := "lib.rs:7" : CallSite }
    (∀ context, (task context).runAll = work context) ∧
    (∀ handler ∈ pipeline.before ++ pipeline.after, like.Kept handler handler) ∧
    PollsLike Eq (site.atOnce pipeline id id world work) (world.logging [])
      (site.parts pipeline world task) (site.inParts pipeline id id world task) ∧
    PollsLike like.logging.world (site.atOnce pipeline .untimed id world work) (world'.logging [])
      (site'.parts pipeline world' task) (site'.inParts pipeline .untimed id world' task) ∧
    site'.parts pipeline world' task = 2 ∧
    (site'.inParts pipeline .untimed id world' task 2).2.2.own.1 = ["first", "second", "v"] := by
  intro site pipeline noting work task same world world' like site'
  have completes : ∀ context, (task context).runAll = work context := fun _ => rfl
  have kept : ∀ handler ∈ pipeline.before ++ pipeline.after, like.Kept handler handler := by
    intro handler member
    rcases List.mem_cons.mp member with rfl | later
    · intro op op' world world' shown alike
      exact ⟨Operation.untimed_set shown _ _, alike⟩
    · obtain rfl := List.mem_singleton.mp later
      intro op op' world world' shown alike
      have texts : op.bag.get? "k" = op'.bag.get? "k" :=
        (Operation.untimed_eq_iff.mp shown).2.2.1 "k" (by decide)
      refine ⟨shown, ?_⟩
      simp only [same, like, Likeness.butClocks, Bag.text, texts] at alike ⊢
      rw [alike]
  have worked : ∀ context world world', same world world' →
      (work context world).1 = ((task context).runAll world').1 ∧
        same (work context world).2 ((task context).runAll world').2 := by
    intro context world world' alike
    exact ⟨rfl, congrArg (· ++ ["first"] ++ ["second"]) alike⟩
  obtain ⟨there, elsewhere⟩ := pending_call_agrees site pipeline id work task world
  refine ⟨completes, kept, there completes, elsewhere "lib.rs:7" world' same id kept worked rfl,
    rfl, ?_⟩
  decide +kernel

end Tapline
