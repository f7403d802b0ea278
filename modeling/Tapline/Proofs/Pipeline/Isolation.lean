import Mathlib.Data.List.Induction
import Tapline.Handler.Argument
import Tapline.Proofs.Pipeline.Program
import Tapline.Proofs.Pipeline.SideBySide
/-!
# Hooks apart

A pipeline may make any number of hooks, while its defaults change and the hooks are used in any
order. Each hook begins with the defaults as they are when it is made. From then on only its own
steps count: later defaults do not reach it, nor do the steps of other hooks. The defaults in turn
are what was set last, whatever the hooks do.

## Main result

`hooks_isolated`.

## Proof strategy

By induction on the acts, from the last one backwards: it makes the hook, or leaves it alone, or is
one of its own steps (`getElem?_act`). So what a hook comes to is a relation of its own steps only,
in which each step meets some world (`history`). Handlers that do not look at the world make it a
function of these steps (`Hook.Takes.eq_alone`).
-/

namespace Tapline

variable {δ ε υ : Type}

/-! ### The steps of a hook -/

/-- What a program does with a hook. -/
inductive HookStep where
  | set (name : String) (value : Value)
  | edit (change : Bag → Bag)
  | enter (context : Context)
  | before
  | after

namespace Hook

def take (hook : Hook δ ε υ) (world : World δ ε υ) : HookStep → Hook δ ε υ × World δ ε υ
  | .set name value => ({ hook with operation := hook.operation.set name value }, world)
  | .edit change =>
    ({ hook with operation := { hook.operation with bag := change hook.operation.bag } }, world)
  | .enter context => ({ hook with operation := { hook.operation with context } }, world)
  | .before => hook.runBefore world
  | .after => hook.runAfter world

/-- Takes steps one after the other, with nothing in between. -/
def takeAlone (hook : Hook δ ε υ) (world : World δ ε υ) (steps : List HookStep) :
    Hook δ ε υ × World δ ε υ :=
  steps.foldl (fun state step => state.1.take state.2 step) (hook, world)

/-- What a hook may come to by steps that each meet some world. -/
inductive Takes (first : Hook δ ε υ) : List HookStep → Hook δ ε υ → Prop
  | none : Takes first [] first
  | more {steps hook} (taken : Takes first steps hook) (step : HookStep) (world : World δ ε υ) :
      Takes first (steps ++ [step]) (hook.take world step).1

end Hook

/-- A handler that does to an operation the same in every world. -/
def Handler.OwnOnly (handler : Handler δ ε υ) : Prop :=
  ∀ op world world', (handler op world).1 = (handler op world').1

/-- Runs of the same operation in any two worlds. -/
def Likeness.anyWorlds : Likeness δ ε υ δ ε υ where
  shown := id
  world _ _ := True
  context same := congrArg Operation.context same
  readClocks _ := trivial

theorem Handler.ownOnly_iff_kept {handler : Handler δ ε υ} :
    handler.OwnOnly ↔ Likeness.anyWorlds.Kept handler handler := by
  constructor
  · rintro own op _ world world' rfl -
    exact ⟨own op world world', trivial⟩
  · intro kept op world world'
    exact (kept op op world world' rfl trivial).1

theorem runHandlers_ownOnly {handlers : List (Handler δ ε υ)}
    (own : ∀ handler ∈ handlers, handler.OwnOnly) : Handler.OwnOnly (runHandlers handlers) := by
  apply Handler.ownOnly_iff_kept.mpr
  apply Likeness.kept_runHandlers
  exact fun handler member => Handler.ownOnly_iff_kept.mp (own handler member)

namespace Hook

/-- A hook whose handlers do not look at the world. -/
def OwnOnly (hook : Hook δ ε υ) : Prop :=
  ∀ handler ∈ hook.before ++ hook.after, handler.OwnOnly

theorem chains_take (hook : Hook δ ε υ) (world : World δ ε υ) (step : HookStep) :
    (hook.take world step).1.before = hook.before ∧
      (hook.take world step).1.after = hook.after := by
  cases step <;> exact ⟨rfl, rfl⟩

theorem OwnOnly.take {hook : Hook δ ε υ} (own : hook.OwnOnly) (world world' : World δ ε υ)
    (step : HookStep) : (hook.take world step).1 = (hook.take world' step).1 := by
  cases step with
  | set name value => rfl
  | edit change => rfl
  | enter context => rfl
  | before =>
    have ran := runHandlers_ownOnly
      (fun handler member => own handler (List.mem_append_left _ member))
      hook.operation.setRequestArgs world world'
    exact congrArg (fun operation => { hook with operation }) ran
  | after =>
    have ran := runHandlers_ownOnly
      (fun handler member => own handler (List.mem_append_right _ member))
      hook.operation.setRequestArgs world world'
    exact congrArg (fun operation => { hook with operation }) ran

theorem Takes.ownOnly {first hook : Hook δ ε υ} {steps : List HookStep}
    (taken : first.Takes steps hook) (own : first.OwnOnly) : hook.OwnOnly := by
  induction taken with
  | none => exact own
  | more _ step world ih =>
    unfold OwnOnly
    rw [(chains_take _ world step).1, (chains_take _ world step).2]
    exact ih

theorem takeAlone_concat (hook : Hook δ ε υ) (world : World δ ε υ) (steps : List HookStep)
    (last : HookStep) : hook.takeAlone world (steps ++ [last]) =
      (hook.takeAlone world steps).1.take (hook.takeAlone world steps).2 last := by
  rw [takeAlone, List.foldl_append]
  rfl

/-- Handlers that do not look at the world make a hook what it would be alone. -/
theorem Takes.eq_alone {first hook : Hook δ ε υ} {steps : List HookStep}
    (taken : first.Takes steps hook) (own : first.OwnOnly) (alone : World δ ε υ) :
    hook = (first.takeAlone alone steps).1 := by
  induction taken with
  | none => rfl
  | @more steps hook taken step world ih =>
    rw [takeAlone_concat, ← ih]
    exact (taken.ownOnly own).take world _ step

end Hook

/-! ### The steps of a pipeline -/

/-- What a program does with a pipeline and its hooks. -/
inductive PipelineAct where
  | default (name : String) (value : Value)
  | create (context : Context)
  | onHook (n : Nat) (step : HookStep)

namespace PipelineAct

def default? : PipelineAct → Option (String × Value)
  | default name value => some (name, value)
  | _ => none

def isCreate : PipelineAct → Bool
  | create _ => true
  | _ => false

def own? (n : Nat) : PipelineAct → Option HookStep
  | onHook m step => if m = n then some step else none
  | _ => none

end PipelineAct

/-- A pipeline with the hooks that it has made. -/
structure PipelineUse (δ ε υ : Type) where
  pipeline : Pipeline δ ε υ
  hooks : List (Hook δ ε υ)
  world : World δ ε υ

namespace PipelineUse

def act (use : PipelineUse δ ε υ) : PipelineAct → PipelineUse δ ε υ
  | .default name value => { use with pipeline := use.pipeline.setDefault name value }
  | .create context => { use with hooks := use.hooks ++ [use.pipeline.hook context] }
  | .onHook n step =>
    match use.hooks[n]? with
    | none => use
    | some hook =>
      let (hook, world) := hook.take use.world step
      { use with hooks := use.hooks.set n hook, world }

def run (pipeline : Pipeline δ ε υ) (world : World δ ε υ) (acts : List PipelineAct) :
    PipelineUse δ ε υ :=
  acts.foldl act ⟨pipeline, [], world⟩

variable (pipeline : Pipeline δ ε υ) (world : World δ ε υ)

theorem run_concat (acts : List PipelineAct) (last : PipelineAct) :
    run pipeline world (acts ++ [last]) = (run pipeline world acts).act last := by
  rw [run, List.foldl_append]
  rfl

/-- A step of a hook changes that hook and the world, if there is such a hook. -/
theorem act_onHook (use : PipelineUse δ ε υ) (n : Nat) (step : HookStep) :
    (use.hooks[n]? = none ∧ use.act (.onHook n step) = use) ∨
    ∃ hook, use.hooks[n]? = some hook ∧ use.act (.onHook n step) =
      { use with
        hooks := use.hooks.set n (hook.take use.world step).1
        world := (hook.take use.world step).2 } := by
  rw [act]
  cases use.hooks[n]? with
  | none => exact .inl ⟨rfl, rfl⟩
  | some hook => exact .inr ⟨hook, rfl, rfl⟩

theorem pipeline_act (use : PipelineUse δ ε υ) (act : PipelineAct) :
    (use.act act).pipeline = use.pipeline.setDefaults act.default?.toList := by
  cases act with
  | default name value => rfl
  | create context => rfl
  | onHook n step =>
    rcases use.act_onHook n step with ⟨-, same⟩ | ⟨hook, -, same⟩
    · rw [same]
      rfl
    · rw [same]
      rfl

/-- Of a pipeline only the defaults change, by what is set. -/
theorem pipeline_run (acts : List PipelineAct) :
    (run pipeline world acts).pipeline = pipeline.setDefaults (acts.filterMap (·.default?)) := by
  induction acts using List.reverseRecOn with
  | nil => rfl
  | append_singleton acts last ih =>
    rw [run_concat, pipeline_act, ih, List.filterMap_append]
    simp only [Pipeline.setDefaults, ← List.foldl_append]
    cases last with
    | default name value => rfl
    | create context => rfl
    | onHook n step => rfl

theorem length_act (use : PipelineUse δ ε υ) (act : PipelineAct) :
    (use.act act).hooks.length = use.hooks.length + if act.isCreate then 1 else 0 := by
  cases act with
  | default name value => rfl
  | create context => exact List.length_append
  | onHook n step =>
    rcases use.act_onHook n step with ⟨-, same⟩ | ⟨hook, -, same⟩
    · rw [same]
      rfl
    · rw [same]
      exact List.length_set

theorem length_run (acts : List PipelineAct) :
    (run pipeline world acts).hooks.length = acts.countP PipelineAct.isCreate := by
  induction acts using List.reverseRecOn with
  | nil => rfl
  | append_singleton acts last ih =>
    rw [run_concat, length_act, ih, List.countP_append, List.countP_singleton]

/-- A hook is made by an act, or was there and takes a step of its own at most. -/
theorem getElem?_act {use : PipelineUse δ ε υ} {act : PipelineAct} {n : Nat} {hook : Hook δ ε υ}
    (found : (use.act act).hooks[n]? = some hook) :
    (∃ context, act = .create context ∧ n = use.hooks.length ∧ hook = use.pipeline.hook context) ∨
    ∃ older, use.hooks[n]? = some older ∧
      ((act.own? n = none ∧ hook = older) ∨
        ∃ step, act.own? n = some step ∧ hook = (older.take use.world step).1) := by
  cases act with
  | default name value => exact .inr ⟨hook, found, .inl ⟨rfl, rfl⟩⟩
  | create context =>
    -- The new hook comes last, so the place tells whether it is the one.
    have found : (use.hooks ++ [use.pipeline.hook context])[n]? = some hook := found
    rcases Nat.lt_or_ge n use.hooks.length with older | newer
    · rw [List.getElem?_append_left older] at found
      exact .inr ⟨hook, found, .inl ⟨rfl, rfl⟩⟩
    · rw [List.getElem?_append_right newer, List.getElem?_singleton] at found
      split at found
      next first =>
        obtain rfl := Option.some.inj found
        exact .inl ⟨context, rfl, Nat.le_antisymm (Nat.le_of_sub_eq_zero first) newer, rfl⟩
      next => cases found
  | onHook m step =>
    right
    rcases use.act_onHook m step with ⟨absent, same⟩ | ⟨older, made, same⟩
    · rw [same] at found
      refine ⟨hook, found, .inl ⟨if_neg ?_, rfl⟩⟩
      rintro rfl
      exact nomatch absent.symm.trans found
    · rw [same] at found
      have found : (use.hooks.set m (older.take use.world step).1)[n]? = some hook := found
      by_cases here : m = n
      · subst here
        rw [List.getElem?_set_self (List.getElem?_eq_some_iff.mp made).1] at found
        exact ⟨older, made, .inr ⟨step, if_pos rfl, (Option.some.inj found).symm⟩⟩
      · rw [List.getElem?_set_ne here] at found
        exact ⟨hook, found, .inl ⟨if_neg here, rfl⟩⟩

/-- A hook begins with the defaults as they are, and takes its own steps from then on. -/
theorem history {acts : List PipelineAct} {n : Nat} {hook : Hook δ ε υ}
    (found : (run pipeline world acts).hooks[n]? = some hook) :
    ∃ earlier context later, acts = earlier ++ .create context :: later ∧
      earlier.countP PipelineAct.isCreate = n ∧
      ((pipeline.setDefaults (earlier.filterMap (·.default?))).hook context).Takes
        (later.filterMap (·.own? n)) hook := by
  induction acts using List.reverseRecOn generalizing hook with
  | nil => cases found
  | append_singleton acts last ih =>
    -- The last act splits no earlier history: it begins one, or adds to its end.
    rw [run_concat] at found
    rcases getElem?_act found with ⟨context, rfl, rfl, rfl⟩ | ⟨older, made, step⟩
    · refine ⟨acts, context, [], rfl, (length_run pipeline world acts).symm, ?_⟩
      rw [pipeline_run]
      exact .none
    · obtain ⟨earlier, context, later, rfl, number, taken⟩ := ih made
      refine ⟨earlier, context, later ++ [last], by simp, number, ?_⟩
      rw [List.filterMap_append]
      rcases step with ⟨other, rfl⟩ | ⟨step, own, rfl⟩
      · rw [List.filterMap_cons_none other, List.filterMap_nil, List.append_nil]
        exact taken
      · rw [List.filterMap_cons_some own, List.filterMap_nil]
        exact taken.more step _

end PipelineUse

/-! ### From the program on -/

def Registration.default? : Registration δ ε υ → Option (String × Value)
  | default name value => some (name, value)
  | _ => none

variable [ByteStream δ ε]

namespace Draft

theorem defaults_register {draft next : Draft δ ε υ} {world : World δ ε υ}
    {registration : Registration δ ε υ}
    (added : (draft.register world registration).1 = .ok next) :
    next.defaults = draft.defaults.insertMany registration.default?.toList := by
  cases registration with
  | printing logger =>
    cases prints : draft.prints with
    | true =>
      simp only [register, printThrough, prints, if_true] at added
      cases added
    | false =>
      simp only [register, printThrough, prints, Bool.false_eq_true, if_false] at added
      obtain rfl := Except.ok.inj added
      rfl
  | _ =>
    obtain rfl := Except.ok.inj added
    rfl

/-- The loggers that a program installs do not touch its defaults. -/
theorem defaults_follow (program : List (Registration δ ε υ)) {draft next : Draft δ ε υ}
    {world : World δ ε υ} (succeeded : (follow program draft world).1 = .ok next) :
    next.defaults = draft.defaults.insertMany (program.filterMap (·.default?)) := by
  induction program generalizing draft world with
  | nil =>
    obtain rfl : draft = next := Except.ok.inj succeeded
    rfl
  | cons registration rest ih =>
    rw [follow] at succeeded
    cases registered : draft.register world registration with
    | mk result left =>
      rw [registered] at succeeded
      cases result with
      | error cause => cases succeeded
      | ok middle =>
        have added : (draft.register world registration).1 = .ok middle := by rw [registered]
        rw [ih succeeded, defaults_register added]
        cases set : registration.default? with
        | none =>
          rw [List.filterMap_cons_none set]
          rfl
        | some entry =>
          rw [List.filterMap_cons_some set]
          rfl

end Draft

/-- **Hooks are isolated.** After any acts on a pipeline that a program has set up, its defaults are
those set last, by the program or since. Each hook has begun with the defaults set last before it
was made and has taken its own steps, in their order, and no others. If its handlers look at nothing
but their operation, it is what these steps make of it alone. -/
theorem hooks_isolated (program : List (Registration δ ε υ)) {start world : World δ ε υ}
    {draft : Draft δ ε υ} (ready : Draft.follow program .empty start = (.ok draft, world))
    (acts : List PipelineAct) :
    let use := PipelineUse.run draft.build world acts
    let set (acts : List PipelineAct) :=
      program.filterMap (·.default?) ++ acts.filterMap (·.default?)
    (∀ key, use.pipeline.defaults.get? key = lastSet? (set acts) key) ∧
    use.hooks.length = acts.countP PipelineAct.isCreate ∧
    ∀ n hook, use.hooks[n]? = some hook →
      ∃ (earlier : List PipelineAct) (context : Context) (later : List PipelineAct)
        (first : Hook δ ε υ),
        acts = earlier ++ .create context :: later ∧ earlier.countP PipelineAct.isCreate = n ∧
        (∀ key, first.operation.bag.get? key = lastSet? (set earlier) key) ∧
        first.operation.context = context ∧
        first.before = draft.before ∧ first.after = draft.after ∧
        first.Takes (later.filterMap (·.own? n)) hook ∧
        ((∀ handler ∈ draft.before ++ draft.after, handler.OwnOnly) →
          ∀ alone, hook = (first.takeAlone alone (later.filterMap (·.own? n))).1) := by
  intro use set
  have defaults : ∀ acts key, (draft.build.setDefaults (acts.filterMap (·.default?))).defaults.get?
      key = lastSet? (set acts) key := by
    intro acts key
    have built : draft.defaults = KeyMap.empty.insertMany (program.filterMap (·.default?)) :=
      Draft.defaults_follow program (congrArg Prod.fst ready)
    have whole : (draft.build.setDefaults (acts.filterMap (·.default?))).defaults =
        KeyMap.empty.insertMany (set acts) := by
      rw [Pipeline.setDefaults_eq]
      have added : draft.defaults.insertMany (acts.filterMap (·.default?)) =
          KeyMap.empty.insertMany (set acts) := by
        rw [built]
        exact List.foldl_append.symm
      exact added
    rw [whole, KeyMap.get?_insertMany]
    exact Option.or_none
  refine ⟨?_, PipelineUse.length_run _ _ _, ?_⟩
  · intro key
    rw [PipelineUse.pipeline_run]
    exact defaults acts key
  · intro n hook found
    obtain ⟨earlier, context, later, split, number, taken⟩ := PipelineUse.history _ _ found
    have chains : ∀ acts, (draft.build.setDefaults acts).before = draft.before ∧
        (draft.build.setDefaults acts).after = draft.after := by
      intro acts
      rw [Pipeline.setDefaults_eq]
      exact ⟨rfl, rfl⟩
    refine ⟨earlier, context, later, _, split, number, defaults earlier, rfl, (chains _).1,
      (chains _).2, taken, ?_⟩
    intro own alone
    apply taken.eq_alone
    unfold Hook.OwnOnly Pipeline.hook
    rw [(chains _).1, (chains _).2]
    exact own

/-- Two hooks that are made before and after a default is set again, and used in turns. -/
theorem hooks_isolated_in_turns :
    let program : List (Registration HostStream Host Unit) :=
      [.default "a" (.text "1"), .before (.copy "a" "b"), .default "a" (.text "2")]
    let start : World HostStream Host Unit := .fresh default (.counting ⟨0, 0⟩) ()
    let acts : List PipelineAct :=
      [.create .background, .default "a" (.text "3"), .create .background,
        .onHook 0 (.set "x" (.text "v")), .onHook 1 .before, .onHook 0 .before,
        .onHook 1 (.edit fun bag => bag.erase "a"), .default "a" (.text "4")]
    ∃ draft world, Draft.follow program .empty start = (.ok draft, world) ∧
      (∀ handler ∈ draft.before ++ draft.after, handler.OwnOnly) ∧
      let use := PipelineUse.run draft.build world acts
      use.pipeline.defaults.get? "a" = some (.text "4") ∧
      use.hooks.map (fun hook => ["a", "b", "x"].map hook.operation.bag.text) =
        [["2", "2", "v"], ["", "3", ""]] ∧
      ∀ n hook, use.hooks[n]? = some hook → ∃ (later : List PipelineAct) (first : Hook _ _ _),
        ∀ alone, hook = (first.takeAlone alone (later.filterMap (·.own? n))).1 := by
  intro program start acts
  have ready : Draft.follow program .empty start =
      (.ok (((Draft.empty.setDefault "a" (.text "1")).addBefore (.copy "a" "b")).setDefault "a"
        (.text "2")), start) := rfl
  let copy : Handler HostStream Host Unit := .copy "a" "b"
  have own : ∀ handler ∈ [copy], handler.OwnOnly := by
    intro handler member
    obtain rfl := List.mem_singleton.mp member
    exact fun op world world' => rfl
  obtain ⟨defaults, -, hooks⟩ := hooks_isolated program ready acts
  refine ⟨_, _, ready, own, ?_, ?_, ?_⟩
  · exact defaults "a"
  · decide +kernel
  · intro n hook found
    obtain ⟨-, -, later, first, -, -, -, -, -, -, -, alone⟩ := hooks n hook found
    exact ⟨later, first, alone own⟩

end Tapline
