import Mathlib.Data.List.DropRight
import Mathlib.Data.List.Induction
import Tapline.World
/-!
# Trails as windows

A trail is shared by everyone who holds a handle on it, and a handle may be cloned any number of
times. Whichever handle is used, the trail shows the newest breadcrumbs among all that were pushed
since it was last taken, as many as it has room for.

## Main result

`trails_are_windows`.

## Proof strategy

A push to a window of a list gives the window of the longer list (`Trail.push_window`). A log
tells which trail each step was about, so what a trail ought to show is a function of the log
(`sinceTaken`). That it shows this is kept by every step (`Windowed.through`, `Windowed.act`), and
so holds after any program (`windowed_run`).
-/

namespace Tapline

/-! ### One trail -/

theorem rtake_rtake {α : Type} (xs : List α) (m n : Nat) :
    (xs.rtake m).rtake n = xs.rtake (min n m) := by
  simp only [List.rtake_eq_reverse_take_reverse, List.reverse_reverse, List.take_take]

namespace Trail

/-- What is left of a full trail are its newest entries, one less than there is room for. -/
theorem makeRoom_eq {capacity : Nat} (positive : 0 < capacity) (crumbs : List Breadcrumb) :
    makeRoom capacity crumbs = crumbs.rtake (capacity - 1) := by
  induction crumbs with
  | nil => simp [makeRoom]
  | cons oldest rest ih =>
    rw [makeRoom]
    simp only [List.rtake, List.length_cons] at ih ⊢
    split
    -- A full trail loses its oldest entry, and with it one of those to drop.
    next full =>
      have gone : rest.length + 1 - (capacity - 1) = rest.length - (capacity - 1) + 1 := by omega
      rw [ih, gone, List.drop_succ_cons]
    next roomy =>
      have all : rest.length + 1 - (capacity - 1) = 0 := by omega
      rw [all, List.drop_zero]

theorem push_window (capacity : Nat) (pushed : List Breadcrumb) (crumb : Breadcrumb) :
    push ⟨capacity, pushed.rtake capacity⟩ crumb =
      ⟨capacity, (pushed ++ [crumb]).rtake capacity⟩ := by
  cases capacity with
  | zero => simp [push]
  | succ room =>
    -- The window loses its oldest entry, if it is full, and has the new one behind it.
    have kept : makeRoom (room + 1) (pushed.rtake (room + 1)) = pushed.rtake room := by
      rw [makeRoom_eq (Nat.succ_pos room), rtake_rtake]
      simp
    simp [push, kept, List.rtake_concat_succ]

end Trail

/-! ### The trails of a world -/

namespace World

variable {δ ε υ : Type} (world : World δ ε υ) {ref other : TrailRef}

theorem trail_addTrail_self (capacity : Nat) :
    (world.addTrail capacity).2.trail (world.addTrail capacity).1 = Trail.ofCapacity capacity := by
  simp [addTrail, trail]

theorem trail_addTrail (known : other.index < world.trails.length) (capacity : Nat) :
    (world.addTrail capacity).2.trail other = world.trail other := by
  simp only [addTrail, trail, List.getElem?_append_left known]

private theorem trail_modify (change : Trail → Trail) (known : other.index < world.trails.length) :
    trail { world with trails := world.trails.modify ref.index change } other =
      if other = ref then change (world.trail other) else world.trail other := by
  have same : ref.index = other.index ↔ other = ref := by
    cases ref
    cases other
    simp [eq_comm]
  simp only [trail, List.getElem?_modify, List.getElem?_eq_getElem known, same]
  split <;> rfl

/-- A push is seen at the trail that it goes to, and there only. -/
theorem trail_pushCrumb (known : other.index < world.trails.length) (crumb : Breadcrumb) :
    (world.pushCrumb ref crumb).trail other =
      if other = ref then (world.trail other).push crumb else world.trail other :=
  world.trail_modify (·.push crumb) known

theorem trail_takeCrumbs (known : other.index < world.trails.length) :
    (world.takeCrumbs ref).2.trail other =
      if other = ref then Trail.ofCapacity (world.trail other).capacity else world.trail other :=
  world.trail_modify (·.take.2) known

end World

/-! ### Handles -/

/-- What a program does with a handle on a trail. -/
inductive TrailStep where
  | clone
  | push (crumb : Breadcrumb)
  | snapshot
  | take

/-- What a program does with trails. Handles are called by their numbers. -/
inductive TrailAct where
  | make (capacity : Nat)
  | through (handle : Nat) (step : TrailStep)

/-- What a step has done, and the answer if it has one. -/
inductive TrailEvent where
  | made (trail : TrailRef) (capacity : Nat)
  | pushed (trail : TrailRef) (crumb : Breadcrumb)
  | shown (trail : TrailRef) (crumbs : List Breadcrumb)
  | taken (trail : TrailRef) (crumbs : List Breadcrumb)

namespace TrailEvent

def pushedTo? (ref : TrailRef) : TrailEvent → Option Breadcrumb
  | pushed trail crumb => if trail = ref then some crumb else none
  | _ => none

/-- A trail is empty after it was made, and after it was taken. -/
def empties (ref : TrailRef) : TrailEvent → Bool
  | made trail _ | taken trail _ => trail = ref
  | _ => false

end TrailEvent

/-- All that was pushed to a trail since it was made or last taken. -/
def sinceTaken (ref : TrailRef) (log : List TrailEvent) : List Breadcrumb :=
  (log.rtakeWhile fun event => !event.empties ref).filterMap (·.pushedTo? ref)

/-- An answer is faithful if it is the window that the log so far leads to. -/
def TrailEvent.Faithful (log : List TrailEvent) : TrailEvent → Prop
  | shown ref crumbs | taken ref crumbs =>
    ∃ capacity, made ref capacity ∈ log ∧ crumbs = (sinceTaken ref log).rtake capacity
  | _ => True

/-- A program that holds handles on the trails of a world. -/
structure TrailUse (δ ε υ : Type) where
  world : World δ ε υ
  handles : List TrailRef
  log : List TrailEvent

namespace TrailUse

variable {δ ε υ : Type}

def through (use : TrailUse δ ε υ) (ref : TrailRef) : TrailStep → TrailUse δ ε υ
  | .clone => { use with handles := use.handles ++ [ref] }
  | .push crumb =>
    { use with world := use.world.pushCrumb ref crumb, log := use.log ++ [.pushed ref crumb] }
  | .snapshot => { use with log := use.log ++ [.shown ref (use.world.trail ref).crumbs] }
  | .take =>
    { use with
      world := (use.world.takeCrumbs ref).2
      log := use.log ++ [.taken ref (use.world.takeCrumbs ref).1] }

def act (use : TrailUse δ ε υ) : TrailAct → TrailUse δ ε υ
  | .make capacity =>
    let made := use.world.addTrail capacity
    ⟨made.2, use.handles ++ [made.1], use.log ++ [.made made.1 capacity]⟩
  | .through handle step =>
    match use.handles[handle]? with
    | none => use
    | some ref => use.through ref step

def run (world : World δ ε υ) (acts : List TrailAct) : TrailUse δ ε υ :=
  acts.foldl act ⟨world, [], []⟩

end TrailUse

/-! ### What is kept -/

theorem sinceTaken_concat (ref : TrailRef) (log : List TrailEvent) (event : TrailEvent) :
    sinceTaken ref (log ++ [event]) =
      if event.empties ref then [] else sinceTaken ref log ++ (event.pushedTo? ref).toList := by
  unfold sinceTaken
  cases emptied : event.empties ref with
  | true => simp [emptied]
  | false => cases pushed : event.pushedTo? ref <;> simp [emptied, pushed]

namespace TrailUse

variable {δ ε υ : Type}

/-- Every trail made shows its window, and every answer has shown the window of its moment. -/
structure Windowed (use : TrailUse δ ε υ) : Prop where
  held : ∀ ref ∈ use.handles, ∃ capacity, .made ref capacity ∈ use.log
  window : ∀ ref capacity, .made ref capacity ∈ use.log →
    ref.index < use.world.trails.length ∧
      use.world.trail ref = ⟨capacity, (sinceTaken ref use.log).rtake capacity⟩
  faithful : ∀ before event after, use.log = before ++ event :: after → event.Faithful before

theorem faithful_concat {log : List TrailEvent} {last : TrailEvent}
    (faithful : ∀ before event after, log = before ++ event :: after → event.Faithful before)
    (lastly : last.Faithful log) :
    ∀ before event after, log ++ [last] = before ++ event :: after → event.Faithful before := by
  intro before event after split
  -- An event of the longer log is its last one, or one of the log before.
  rcases List.eq_nil_or_concat after with rfl | ⟨after, final, rfl⟩
  · obtain ⟨rfl, same⟩ := List.append_inj' split rfl
    obtain rfl := List.singleton_inj.mp same
    exact lastly
  · rw [List.concat_eq_append, ← List.cons_append, ← List.append_assoc] at split
    exact faithful before event after (List.append_inj' split rfl).1

theorem Windowed.note {use : TrailUse δ ε υ} (windowed : use.Windowed) (world : World δ ε υ)
    (event : TrailEvent) (old : ∀ ref capacity, event ≠ .made ref capacity)
    (faithful : event.Faithful use.log)
    (same : world.trails.length = use.world.trails.length)
    (shows : ∀ ref capacity, ref.index < use.world.trails.length →
      use.world.trail ref = ⟨capacity, (sinceTaken ref use.log).rtake capacity⟩ →
      world.trail ref = ⟨capacity, (sinceTaken ref (use.log ++ [event])).rtake capacity⟩) :
    Windowed ⟨world, use.handles, use.log ++ [event]⟩ := by
  refine ⟨?_, ?_, faithful_concat windowed.faithful faithful⟩
  · intro ref member
    obtain ⟨capacity, made⟩ := windowed.held ref member
    exact ⟨capacity, List.mem_append_left _ made⟩
  · intro ref capacity member
    have made : .made ref capacity ∈ use.log := by
      rcases List.mem_append.mp member with earlier | last
      · exact earlier
      · exact absurd (List.mem_singleton.mp last).symm (old ref capacity)
    obtain ⟨known, window⟩ := windowed.window ref capacity made
    exact ⟨same ▸ known, shows ref capacity known window⟩

theorem Windowed.through {use : TrailUse δ ε υ} (windowed : use.Windowed) {ref : TrailRef}
    (held : ref ∈ use.handles) (step : TrailStep) : (use.through ref step).Windowed := by
  obtain ⟨capacity, made⟩ := windowed.held ref held
  have window := (windowed.window ref capacity made).2
  cases step with
  | clone =>
    refine ⟨?_, windowed.window, windowed.faithful⟩
    intro other member
    rcases List.mem_append.mp member with older | new
    · exact windowed.held other older
    · obtain rfl := List.mem_singleton.mp new
      exact ⟨capacity, made⟩
  | push crumb =>
    apply windowed.note (use.world.pushCrumb ref crumb) (.pushed ref crumb) (by simp) trivial
    · simp [World.pushCrumb]
    · intro other capacity known window
      rw [World.trail_pushCrumb _ known, sinceTaken_concat, window]
      -- The crumb comes to the end of the window that it was pushed to, and to no other.
      by_cases here : other = ref
      · simp [here, TrailEvent.empties, TrailEvent.pushedTo?, Trail.push_window]
      · simp [here, Ne.symm here, TrailEvent.empties, TrailEvent.pushedTo?]
  | snapshot =>
    apply windowed.note use.world (.shown ref (use.world.trail ref).crumbs) (by simp)
      ⟨capacity, made, by rw [window]⟩ rfl
    intro other capacity known window
    simp [sinceTaken_concat, TrailEvent.empties, TrailEvent.pushedTo?, window]
  | take =>
    have answer : (use.world.takeCrumbs ref).1 = (sinceTaken ref use.log).rtake capacity := by
      simp [World.takeCrumbs, Trail.take, window]
    apply windowed.note (use.world.takeCrumbs ref).2 (.taken ref (use.world.takeCrumbs ref).1)
      (by simp) ⟨capacity, made, answer⟩
    · simp [World.takeCrumbs]
    · intro other capacity known window
      rw [World.trail_takeCrumbs _ known, sinceTaken_concat, window]
      by_cases here : other = ref
      · simp [here, TrailEvent.empties, Trail.ofCapacity]
      · simp [here, Ne.symm here, TrailEvent.empties, TrailEvent.pushedTo?]

theorem Windowed.make {use : TrailUse δ ε υ} (windowed : use.Windowed) (capacity : Nat) :
    (use.act (.make capacity)).Windowed := by
  refine ⟨?_, ?_, faithful_concat windowed.faithful trivial⟩
  · intro ref member
    rcases List.mem_append.mp member with older | new
    · obtain ⟨capacity, made⟩ := windowed.held ref older
      exact ⟨capacity, List.mem_append_left _ made⟩
    · obtain rfl := List.mem_singleton.mp new
      exact ⟨capacity, List.mem_append_right _ (List.mem_singleton_self _)⟩
  · intro ref room member
    have grown : (use.world.addTrail capacity).2.trails.length = use.world.trails.length + 1 := by
      simp [World.addTrail]
    rw [act, sinceTaken_concat]
    rcases List.mem_append.mp member with older | new
    · obtain ⟨known, window⟩ := windowed.window ref room older
      -- The new trail is none of those that are there already.
      have apart : (use.world.addTrail capacity).1 ≠ ref := by
        rintro rfl
        exact Nat.lt_irrefl _ known
      refine ⟨by rw [grown]; omega, ?_⟩
      rw [World.trail_addTrail _ known, window]
      simp [TrailEvent.empties, TrailEvent.pushedTo?, apart]
    · obtain ⟨here, rfl⟩ := TrailEvent.made.inj (List.mem_singleton.mp new)
      rw [here]
      refine ⟨by rw [grown]; exact Nat.lt_succ_self _, ?_⟩
      rw [World.trail_addTrail_self]
      simp [TrailEvent.empties, Trail.ofCapacity]

theorem Windowed.act {use : TrailUse δ ε υ} (windowed : use.Windowed) (act : TrailAct) :
    (use.act act).Windowed := by
  cases act with
  | make capacity => exact windowed.make capacity
  | through handle step =>
    rw [TrailUse.act]
    cases held : use.handles[handle]? with
    | none => exact windowed
    | some ref => exact windowed.through (List.mem_of_getElem? held) step

theorem windowed_run (world : World δ ε υ) (acts : List TrailAct) : (run world acts).Windowed := by
  -- From the back: the act that comes last is done to what the others have left.
  induction acts using List.reverseRecOn with
  | nil => exact ⟨nofun, nofun, by simp [run]⟩
  | append_singleton acts last ih =>
    rw [run, List.foldl_append]
    exact ih.act last

end TrailUse

/-- **A trail is a window.** After any program over the trails of a world, each handle shows the
newest crumbs of those pushed to its trail since it was made or last taken, through whichever
handle: as many as there are, up to the capacity that the trail was made with. A snapshot and a take
answer just that, and have always done so. A snapshot changes nothing; a clone is one more handle on
the same trail; a take leaves the trail empty for everyone who holds it, and no other. -/
theorem trails_are_windows {δ ε υ : Type} (world : World δ ε υ) (acts : List TrailAct) :
    let use := TrailUse.run world acts
    (∀ handle ref, use.handles[handle]? = some ref →
      let shown := (use.world.trail ref).crumbs
      let seen := use.act (.through handle .snapshot)
      let cloned := use.act (.through handle .clone)
      let taken := use.act (.through handle .take)
      (∃ capacity, .made ref capacity ∈ use.log) ∧
      (∀ capacity, .made ref capacity ∈ use.log →
        shown = (sinceTaken ref use.log).rtake capacity ∧
        shown.length = min capacity (sinceTaken ref use.log).length) ∧
      (seen.world = use.world ∧ seen.handles = use.handles ∧
        seen.log = use.log ++ [.shown ref shown]) ∧
      (cloned.world = use.world ∧ cloned.handles = use.handles ++ [ref]) ∧
      (taken.handles = use.handles ∧ taken.log = use.log ++ [.taken ref shown] ∧
        ∀ other ∈ use.handles, (taken.world.trail other).crumbs =
          if other = ref then [] else (use.world.trail other).crumbs)) ∧
    ∀ before event after, use.log = before ++ event :: after → event.Faithful before := by
  intro use
  have windowed : use.Windowed := TrailUse.windowed_run world acts
  refine ⟨?_, windowed.faithful⟩
  intro handle ref held shown seen cloned taken
  have through : ∀ step, use.act (.through handle step) = use.through ref step := by
    intro step
    simp only [TrailUse.act, held]
  refine ⟨windowed.held ref (List.mem_of_getElem? held), ?_, ?_, ?_, ?_⟩
  · intro capacity made
    have window : shown = (sinceTaken ref use.log).rtake capacity := by
      rw [show shown = (use.world.trail ref).crumbs from rfl, (windowed.window ref capacity made).2]
    refine ⟨window, ?_⟩
    rw [window, List.rtake, List.length_drop]
    omega
  · rw [show seen = use.through ref .snapshot from through .snapshot]
    exact ⟨rfl, rfl, rfl⟩
  · rw [show cloned = use.through ref .clone from through .clone]
    exact ⟨rfl, rfl⟩
  · rw [show taken = use.through ref .take from through .take]
    refine ⟨rfl, rfl, ?_⟩
    intro other member
    obtain ⟨capacity, made⟩ := windowed.held other member
    rw [TrailUse.through, World.trail_takeCrumbs _ (windowed.window other capacity made).1]
    split <;> rfl

/-- A trail for two crumbs with two handles, taken once, beside a trail without room. -/
theorem window_of_two_crumbs :
    let crumb := Breadcrumb.new ⟨0, 0⟩
    let acts : List TrailAct :=
      [.make 2, .through 0 .clone, .through 0 (.push (crumb "a")), .through 1 (.push (crumb "b")),
        .through 0 (.push (crumb "c")), .through 1 .take, .through 0 (.push (crumb "d")), .make 0,
        .through 2 (.push (crumb "e"))]
    let use := TrailUse.run (.fresh () (.counting ⟨0, 0⟩) () : World Unit Unit Unit) acts
    use.handles = [⟨0⟩, ⟨0⟩, ⟨1⟩] ∧ (use.world.trail ⟨0⟩).crumbs = [crumb "d"] ∧
      (use.world.trail ⟨1⟩).crumbs = [] ∧
      ∃ before after, use.log = before ++ .taken ⟨0⟩ [crumb "b", crumb "c"] :: after ∧
        TrailEvent.Faithful before (.taken ⟨0⟩ [crumb "b", crumb "c"]) := by
  intro crumb acts use
  obtain ⟨handles, answers⟩ := trails_are_windows
    (.fresh () (.counting ⟨0, 0⟩) () : World Unit Unit Unit) acts
  have log : use.log = [.made ⟨0⟩ 2, .pushed ⟨0⟩ (crumb "a"), .pushed ⟨0⟩ (crumb "b"),
      .pushed ⟨0⟩ (crumb "c")] ++ .taken ⟨0⟩ [crumb "b", crumb "c"] ::
      [.pushed ⟨0⟩ (crumb "d"), .made ⟨1⟩ 0, .pushed ⟨1⟩ (crumb "e")] := rfl
  refine ⟨rfl, ?_, ?_, _, _, log, answers _ _ _ log⟩
  · have made : .made ⟨0⟩ 2 ∈ use.log := by simp [log]
    have shown : (use.world.trail ⟨0⟩).crumbs = (sinceTaken ⟨0⟩ use.log).rtake 2 :=
      ((handles 1 ⟨0⟩ rfl).2.1 2 made).1
    rw [log] at shown
    exact shown
  · have made : .made ⟨1⟩ 0 ∈ use.log := by simp [log]
    have shown : (use.world.trail ⟨1⟩).crumbs = (sinceTaken ⟨1⟩ use.log).rtake 0 :=
      ((handles 2 ⟨1⟩ rfl).2.1 0 made).1
    rw [log] at shown
    exact shown

end Tapline
