import Tapline.Field.Standard
import Tapline.Handler.Record
import Tapline.Handler.Tracing
import Tapline.Proofs.Pipeline.Pending
/-!
# What is told of failures

An operation that fails leaves the text of its error in an argument, and the rest is read from
there: the field of a record, the error of a span, the level of a breadcrumb. The argument is
written only when an operation fails, and a text that is empty is read as no error. So an operation
that succeeds tells of an error that its defaults or fields hold, and one that fails with an empty
text tells of none. In all other cases an error is told of exactly if the operation failed.

## Main results

`failure_told`, and `failures_mistold` for the two cases that go wrong.

## Proof strategy

The error that is told is a function of one argument. Handlers that leave that argument alone carry
it through a chain (`get?_of_mem_foundBy`), so what the chain after finds goes back to its start,
and from there to the answer and to the start of the chain before.
-/

namespace Tapline

variable {δ ε υ φ α : Type}

/-! ### What is read from the argument -/

theorem Bag.error?_congr {bag bag' : Bag} {name : String} (same : bag.get? name = bag'.get? name) :
    bag.error? name = bag'.error? name := by
  unfold Bag.error?
  rw [same]

/-- What a record shows of an error, if there is one. -/
def errorField : Option String → Field
  | none => .skipped "error"
  | some message => .shown "error" (.text message)

/-- An operation tells of an error wherever it is asked for one, or nowhere of any. -/
structure Operation.Tells (op : Operation) (error : Option String) : Prop where
  argument : op.bag.error? "error" = error
  record : ∃ read, Registry.standard.get? 'e' = some read ∧ read op.bag = .done (errorField error)
  span : ∀ {δ ε υ : Type} (world : World δ ε υ) (parked : OpenSpan),
    op.extensions.get? .openSpan = some parked →
      (Handler.closeSpan (fun _ _ world => world) op world).2.spans =
        error.elim world.spans (world.spans.record parked.span "error")
  crumb : ∀ now crumb, Handler.namedCrumb now op = some crumb →
    (crumb.level = if error.isSome then .error else .info) ∧
      crumb.data.get? "error" = error.map Json.string

theorem level_ofOperation? {now : Timestamp} {bag : Bag} {crumb : Breadcrumb}
    (left : Breadcrumb.ofOperation? now bag = some crumb) :
    (crumb.level = if (bag.error? "error").isSome then .error else .info) ∧
      crumb.data.get? "error" = (bag.error? "error").map Json.string := by
  obtain ⟨name, -, rfl⟩ := Option.map_eq_some_iff.mp left
  -- The duration is the only other detail, and its name is another one.
  have timed : ∀ crumb : Breadcrumb, (if (bag.duration "duration").isZero then crumb
      else crumb.withData "duration" (.string (bag.duration "duration").text)).level = crumb.level ∧
      (if (bag.duration "duration").isZero then crumb
        else crumb.withData "duration" (.string (bag.duration "duration").text)).data.get? "error" =
          crumb.data.get? "error" := by
    intro crumb
    split
    · exact ⟨rfl, rfl⟩
    · refine ⟨rfl, ?_⟩
      rw [Breadcrumb.withData, KeyMap.get?_insert, if_neg (by decide)]
  simp only [ArgName.error, ArgName.duration]
  cases bag.error? "error" with
  | none => exact timed _
  | some message => exact ⟨rfl, KeyMap.get?_insert_self _ _ _⟩

theorem Operation.tells_error? (op : Operation) : op.Tells (op.bag.error? "error") := by
  constructor
  · rfl
  · refine ⟨.error "error" "error", rfl, ?_⟩
    simp only [FieldFunction.error, FieldFunction.ofPure]
    cases op.bag.error? "error" with
    | none => rfl
    | some message => rfl
  · intro δ ε υ world parked opened
    simp only [Handler.closeSpan, opened, ArgName.error]
    cases op.bag.error? "error" with
    | none => rfl
    | some message => rfl
  · intro now crumb left
    exact level_ofOperation? left

/-! ### Chains that leave an argument alone -/

/-- A handler that leaves an argument as it is, set or not. -/
def Handler.Keeps (name : String) (handler : Handler δ ε υ) : Prop :=
  ∀ op world, (handler op world).1.bag.get? name = op.bag.get? name

namespace Handler

theorem keeps_closeSpan (name : String) (onFinish : SpanRemark δ ε υ) :
    (closeSpan onFinish).Keeps name := by
  intro op world
  unfold closeSpan
  split
  · rfl
  · rfl

theorem keeps_breadcrumb (name : String) (crumbOf : CrumbOf) :
    (breadcrumb crumbOf : Handler δ ε υ).Keeps name := by
  intro op world
  unfold breadcrumb
  split
  · rfl
  · simp only
    split
    · rfl
    · rfl

end Handler

theorem get?_runHandlers {name : String} {handlers : List (Handler δ ε υ)}
    (keep : ∀ handler ∈ handlers, handler.Keeps name) (op : Operation) (world : World δ ε υ) :
    (runHandlers handlers op world).1.bag.get? name = op.bag.get? name := by
  induction handlers generalizing op world with
  | nil => rfl
  | cons handler rest ih =>
    have later := ih (fun other member => keep other (List.mem_cons_of_mem handler member))
      (handler op world).1 (handler op world).2
    exact later.trans (keep handler List.mem_cons_self op world)

theorem get?_of_mem_foundBy {name : String} {handlers : List (Handler δ ε υ)}
    (keep : ∀ handler ∈ handlers, handler.Keeps name) {op found : Operation} {world : World δ ε υ}
    (member : found ∈ foundBy handlers op world) : found.bag.get? name = op.bag.get? name := by
  induction handlers generalizing op world with
  | nil => cases member
  | cons handler rest ih =>
    rcases List.mem_cons.mp member with rfl | later
    · rfl
    · have kept := ih (fun other member => keep other (List.mem_cons_of_mem handler member)) later
      exact kept.trans (keep handler List.mem_cons_self op world)

/-! ### The error at a call site -/

/-- The error that is told of an answer, over one that was told of before. A text that is empty is
told of as none. -/
def errorTold (text : φ → String) (before : Option String) : Except φ α → Option String
  | .ok _ => before
  | .error e => if (text e).isEmpty then none else some (text e)

theorem isSome_errorTold {text : φ → String} {answer : Except φ α}
    (shown : ∀ e, answer = .error e → text e ≠ "") :
    (errorTold text none answer).isSome ↔ ∃ e, answer = .error e := by
  cases answer with
  | ok value => simp [errorTold]
  | error e => simp [errorTold, shown e rfl]

namespace CallSite

variable (site : CallSite) (pipeline : Pipeline δ ε υ)

/-- The error that the defaults and the fields of a call tell of. -/
def errorBefore? : Option String :=
  Bag.error? (pipeline.defaults.insertMany site.fields.entries) "error"

theorem error?_closing (text : φ → String) (left : Operation) (answer : Except φ α)
    (ended : ClockReading) :
    (closing left (errorText? text answer) ended).bag.error? "error" =
      errorTold text (left.bag.error? "error") answer := by
  have found := get?_closing left (errorText? text answer) ended
    (by decide : "error" ∉ ["uuid", "web_url", "web_method"])
  rw [if_pos rfl, if_neg (by decide), if_neg (by decide)] at found
  -- What is found is written by the closing if the answer is an error, and left by it otherwise.
  cases answer with
  | ok value => exact Bag.error?_congr found
  | error e =>
    have written : (closing left (errorText? text (.error e : Except φ α)) ended).bag.get? "error" =
        some (.text (text e)) := found
    simp only [Bag.error?, written, errorTold]

theorem error?_opening (began : ClockReading) :
    (site.opening pipeline began).bag.error? "error" = site.errorBefore? pipeline := by
  apply Bag.error?_congr
  rw [get?_opening _ _ _ (by decide), if_neg (by decide), if_neg (by decide), if_neg (by decide),
    KeyMap.get?_insertMany_entries]

/-- The log of a call, by what its chains find. -/
theorem atOnce_eq (text : φ → String) (world : World δ ε υ)
    (work : Context → World δ ε υ → Except φ α × World δ ε υ) :
    let left := site.leadIn pipeline world
    let done := work left.1.context left.2
    let error := errorText? text done.1
    site.atOnce pipeline id text world work =
      (done.1, (leadOut pipeline left.1 error done.2).2.logging
        ((foundBy pipeline.before (site.opening pipeline world.readClocks.1)
            world.readClocks.2).mapIdx .before ++ [.work left.1.context] ++
          (foundBy pipeline.after (closing left.1 error done.2.readClocks.1)
            done.2.readClocks.2).mapIdx .after)) := by
  intro left done error
  have entered := site.leadIn_watched pipeline world []
  have worked : ∀ log, watchWork work left.1.context (left.2.logging log) =
      (done.1, done.2.logging (log ++ [.work left.1.context])) := fun _ => rfl
  have ended := leadOut_watched pipeline left.1 error done.2
  have run : site.atOnce pipeline id text world work =
      site.instrument pipeline.watched text (watchWork work) (world.logging []) := rfl
  rw [run, instrument_eq, entered]
  simp only [List.nil_append]
  rw [worked]
  simp only
  rw [ended]

end CallSite

/-- **What is told of failures.** The chain after finds the error of the answer, whether the work is
done at once or in parts, given handlers that leave the error alone. An error is told of exactly if
the operation failed, unless the defaults or the fields hold one or the text of the error is
empty. -/
theorem failure_told (site : CallSite) (pipeline : Pipeline δ ε υ) (text : φ → String)
    (task : Context → Task (World δ ε υ) (Except φ α)) (world : World δ ε υ)
    (keep : ∀ handler ∈ pipeline.before ++ pipeline.after, handler.Keeps "error") :
    let called := site.atOnce pipeline id text world fun context => (task context).runAll
    let before := site.errorBefore? pipeline
    ∃ (earlier later : List Operation) (context : Context),
      called.2.own.2 = earlier.mapIdx .before ++ [.work context] ++ later.mapIdx .after ∧
      later.length = pipeline.after.length ∧
      (∀ found ∈ later, found.Tells (errorTold text before called.1)) ∧
      (before = none → (∀ e, called.1 = .error e → text e ≠ "") →
        ∀ found ∈ later, ((found.bag.error? "error").isSome ↔ ∃ e, called.1 = .error e)) ∧
      ∀ polls, site.parts pipeline world task ≤ polls →
        site.inParts pipeline id text world task polls =
          (some called.1, site.parts pipeline world task, called.2) := by
  intro called before
  -- The run by its stages.
  let left := site.leadIn pipeline world
  let done := (task left.1.context).runAll left.2
  let closing := CallSite.closing left.1 (errorText? text done.1) done.2.readClocks.1
  let earlier := foundBy pipeline.before (site.opening pipeline world.readClocks.1)
    world.readClocks.2
  let later := foundBy pipeline.after closing done.2.readClocks.2
  have run : called = (done.1, (CallSite.leadOut pipeline left.1 (errorText? text done.1)
      done.2).2.logging (earlier.mapIdx .before ++ [.work left.1.context] ++
        later.mapIdx .after)) :=
    site.atOnce_eq pipeline text world fun context => (task context).runAll
  -- The error goes from the start of the chain before to its end, and from there to the answer.
  have entered : left.1.bag.error? "error" = before := by
    refine Eq.trans (Bag.error?_congr ?_) (site.error?_opening pipeline world.readClocks.1)
    exact get?_runHandlers (fun handler member => keep handler (List.mem_append_left _ member)) _ _
  have tells : ∀ found ∈ later, found.bag.error? "error" = errorTold text before called.1 := by
    intro found member
    have kept : found.bag.get? "error" = closing.bag.get? "error" :=
      get?_of_mem_foundBy (fun handler member => keep handler (List.mem_append_right _ member))
        member
    rw [Bag.error?_congr kept, CallSite.error?_closing, entered, run]
  refine ⟨earlier, later, left.1.context, ?_, length_foundBy _ _ _, ?_, ?_, ?_⟩
  · rw [run]
    rfl
  · intro found member
    rw [← tells found member]
    exact found.tells_error?
  · intro clean shown found member
    rw [tells found member, clean]
    exact isSome_errorTold shown
  · intro polls enough
    have begun : 0 < polls := Nat.lt_of_lt_of_le (Task.parts_pos _) enough
    rw [CallSite.inParts_eq _ _ _ _ _ _ begun, if_pos enough]

/-- An operation in a span that waits once and then fails, and leaves a breadcrumb. -/
theorem failure_told_of_refusal :
    let site : CallSite := ⟨.background, "op", "main.rs:3", .empty⟩
    let pipeline : Pipeline Unit Unit Unit :=
      ⟨.empty, [.openSpan (fun _ => "span") (fun _ _ world => world)],
        [.closeSpan (fun _ _ world => world), .breadcrumb Handler.namedCrumb], none⟩
    let task := fun (_ : Context) =>
      Task.wait id (.last fun world => ((.error "refused" : Except String Nat), world))
    let world : World Unit Unit Unit := .fresh () (.counting ⟨0, 0⟩) ()
    let called := site.atOnce pipeline id id world fun context => (task context).runAll
    (∀ handler ∈ pipeline.before ++ pipeline.after, handler.Keeps "error") ∧
    ∃ (earlier later : List Operation) (context : Context),
      called.2.own.2 = earlier.mapIdx .before ++ [.work context] ++ later.mapIdx .after ∧
      later.length = 2 ∧ (∀ found ∈ later, found.Tells (some "refused")) ∧
      site.inParts pipeline id id world task 2 = (some (.error "refused"), 2, called.2) := by
  intro site pipeline task world called
  have keep : ∀ handler ∈ pipeline.before ++ pipeline.after, handler.Keeps "error" := by
    simp only [pipeline, List.cons_append, List.nil_append, List.forall_mem_cons]
    exact ⟨fun op world => rfl, Handler.keeps_closeSpan _ _, Handler.keeps_breadcrumb _ _,
      fun _ member => by cases member⟩
  obtain ⟨earlier, later, context, log, number, tells, -, parts⟩ :=
    failure_told site pipeline id task world keep
  exact ⟨keep, earlier, later, context, log, number, tells, parts 2 (Nat.le_refl 2)⟩

/-- An operation that fails with an empty text is told of as one that succeeded, and one that
succeeds with an error among its fields as one that failed. -/
theorem failures_mistold :
    let tell : Handler Unit Unit (List (Option String)) := fun op world =>
      (op, { world with own := world.own ++ [op.bag.error? "error"] })
    let pipeline : Pipeline Unit Unit (List (Option String)) :=
      ⟨.empty, [], [tell, .breadcrumb Handler.namedCrumb], none⟩
    let site (fields : List (String × Value)) : CallSite :=
      ⟨Context.background.withTrail ⟨0⟩, "op", "main.rs:3", .ofList fields⟩
    let world : World Unit Unit (List (Option String)) :=
      ((World.fresh () (.counting ⟨0, 0⟩) []).addTrail 4).2
    let call (fields : List (String × Value)) (answer : Except String Nat) :=
      (site fields).instrument pipeline id (fun _ world => (answer, world)) world
    let levels (world : World Unit Unit (List (Option String))) :=
      (world.trail ⟨0⟩).crumbs.map (·.level)
    (∀ handler ∈ pipeline.before ++ pipeline.after, handler.Keeps "error") ∧
    (call [] (.error "")).1 = .error "" ∧ (call [] (.error "")).2.own = [none] ∧
    levels (call [] (.error "")).2 = [.info] ∧
    (call [("error", .text "old")] (.ok 1)).1 = .ok 1 ∧
    (call [("error", .text "old")] (.ok 1)).2.own = [some "old"] ∧
    levels (call [("error", .text "old")] (.ok 1)).2 = [.error] := by
  intro tell pipeline site world call levels
  have keep : ∀ handler ∈ pipeline.before ++ pipeline.after, handler.Keeps "error" := by
    simp only [pipeline, List.nil_append, List.forall_mem_cons]
    exact ⟨fun op world => rfl, Handler.keeps_breadcrumb _ _, fun _ member => by cases member⟩
  refine ⟨keep, rfl, ?_, ?_, rfl, ?_, ?_⟩ <;> decide +kernel

end Tapline
