import Tapline.Proofs.Pipeline.CallSite
/-!
# Two runs side by side

Two runs of a program may differ in what its operations only carry along, such as a logger or the
readings of clocks. A likeness says in what the runs still agree: in what is shown of an operation,
and in a relation of their worlds. A chain keeps a likeness if its handlers do, and a call site
keeps it if its chains and its work do. Then the answers are the same, and so is the log of calls
as far as it is shown.
-/

namespace Tapline

variable {δ ε υ δ' ε' υ' φ α : Type}

/-- In what two runs agree. The context is always shown, and reading the clocks keeps the worlds
alike. -/
structure Likeness (δ ε υ δ' ε' υ' : Type) where
  shown : Operation → Operation
  world : World δ ε υ → World δ' ε' υ' → Prop
  context : ∀ {op op'}, shown op = shown op' → op.context = op'.context
  readClocks : ∀ {w w'}, world w w' → world w.readClocks.2 w'.readClocks.2

namespace Likeness

variable {like : Likeness δ ε υ δ' ε' υ'}

/-- Two handlers, or whole chains, that leave alike what they find alike. -/
def Kept (like : Likeness δ ε υ δ' ε' υ') (act : Handler δ ε υ) (act' : Handler δ' ε' υ') : Prop :=
  ∀ op op' world world', like.shown op = like.shown op' → like.world world world' →
    like.shown (act op world).1 = like.shown (act' op' world').1 ∧
      like.world (act op world).2 (act' op' world').2

theorem Kept.cons {handler : Handler δ ε υ} {handler' : Handler δ' ε' υ'}
    {rest : List (Handler δ ε υ)} {rest' : List (Handler δ' ε' υ')}
    (first : like.Kept handler handler')
    (later : like.Kept (runHandlers rest) (runHandlers rest')) :
    like.Kept (runHandlers (handler :: rest)) (runHandlers (handler' :: rest')) := by
  intro op op' world world' shown alike
  obtain ⟨shown, alike⟩ := first op op' world world' shown alike
  exact later _ _ _ _ shown alike

theorem kept_runHandlers {like : Likeness δ ε υ δ ε υ} {handlers : List (Handler δ ε υ)}
    (kept : ∀ handler ∈ handlers, like.Kept handler handler) :
    like.Kept (runHandlers handlers) (runHandlers handlers) := by
  induction handlers with
  | nil => exact fun op op' world world' shown alike => ⟨shown, alike⟩
  | cons handler rest ih =>
    apply Kept.cons
    · exact kept handler List.mem_cons_self
    · exact ih fun other member => kept other (List.mem_cons_of_mem handler member)

/-! ### Call sites -/

/-- Two call sites, each on its own pipeline, that keep a likeness in every step. -/
structure Joins (like : Likeness δ ε υ δ' ε' υ') (site site' : CallSite)
    (pipeline : Pipeline δ ε υ) (pipeline' : Pipeline δ' ε' υ')
    (work : Context → World δ ε υ → Except φ α × World δ ε υ)
    (work' : Context → World δ' ε' υ' → Except φ α × World δ' ε' υ') : Prop where
  before : like.Kept (runHandlers pipeline.before) (runHandlers pipeline'.before)
  after : like.Kept (runHandlers pipeline.after) (runHandlers pipeline'.after)
  opening : ∀ world world', like.world world world' →
    like.shown (site.opening pipeline world.readClocks.1) =
      like.shown (site'.opening pipeline' world'.readClocks.1)
  closing : ∀ left left' error world world', like.shown left = like.shown left' →
    like.world world world' → like.shown (CallSite.closing left error world.readClocks.1) =
      like.shown (CallSite.closing left' error world'.readClocks.1)
  work : ∀ context world world', like.world world world' →
    (work context world).1 = (work' context world').1 ∧
      like.world (work context world).2 (work' context world').2

variable {site site' : CallSite} {pipeline : Pipeline δ ε υ} {pipeline' : Pipeline δ' ε' υ'}
  {work : Context → World δ ε υ → Except φ α × World δ ε υ}
  {work' : Context → World δ' ε' υ' → Except φ α × World δ' ε' υ'}

theorem Joins.leadIn (joins : like.Joins site site' pipeline pipeline' work work')
    {world : World δ ε υ} {world' : World δ' ε' υ'} (alike : like.world world world') :
    like.shown (site.leadIn pipeline world).1 = like.shown (site'.leadIn pipeline' world').1 ∧
      like.world (site.leadIn pipeline world).2 (site'.leadIn pipeline' world').2 := by
  apply joins.before
  · exact joins.opening _ _ alike
  · exact like.readClocks alike

theorem Joins.leadOut (joins : like.Joins site site' pipeline pipeline' work work')
    {left left' : Operation} (error : Option String) (shown : like.shown left = like.shown left')
    {world : World δ ε υ} {world' : World δ' ε' υ'} (alike : like.world world world') :
    like.world (CallSite.leadOut pipeline left error world).2
      (CallSite.leadOut pipeline' left' error world').2 := by
  have closing := joins.closing _ _ error _ _ shown alike
  exact (joins.after _ _ _ _ closing (like.readClocks alike)).2

/-- Call sites that keep a likeness give the same answer. -/
theorem Joins.instrument (joins : like.Joins site site' pipeline pipeline' work work')
    (text : φ → String) {world : World δ ε υ} {world' : World δ' ε' υ'}
    (alike : like.world world world') :
    (site.instrument pipeline text work world).1 =
        (site'.instrument pipeline' text work' world').1 ∧
      like.world (site.instrument pipeline text work world).2
        (site'.instrument pipeline' text work' world').2 := by
  simp only [CallSite.instrument_eq]
  obtain ⟨shown, entered⟩ := joins.leadIn alike
  rw [like.context shown]
  obtain ⟨answer, worked⟩ := joins.work (site'.leadIn pipeline' world').1.context _ _ entered
  rw [answer]
  exact ⟨rfl, joins.leadOut _ shown worked⟩

/-! ### The log of calls -/

/-- The likeness of runs that keep a log: the logs are the same. -/
def logging (like : Likeness δ ε υ δ' ε' υ') :
    Likeness δ ε (υ × List SiteCall) δ' ε' (υ' × List SiteCall) where
  shown := like.shown
  world world world' := like.world world.unlogged world'.unlogged ∧ world.own.2 = world'.own.2
  context := like.context
  readClocks := fun alike => ⟨like.readClocks alike.1, alike.2⟩

theorem Kept.watched {handler : Handler δ ε υ} {handler' : Handler δ' ε' υ'}
    (kept : like.Kept handler handler') (call : Operation → SiteCall) :
    like.logging.Kept (Handler.watched (fun op => call (like.shown op)) handler)
      (Handler.watched (fun op => call (like.shown op)) handler') := by
  intro op op' world world' shown alike
  obtain ⟨left, worlds⟩ := kept op op' world.unlogged world'.unlogged shown alike.1
  have shown : like.shown op = like.shown op' := shown
  refine ⟨left, worlds, ?_⟩
  simp only [Handler.watched, World.watching, World.logging, shown, alike.2]

theorem kept_watchChain {like : Likeness δ ε υ δ ε υ} {handlers : List (Handler δ ε υ)}
    (kept : ∀ handler ∈ handlers, like.Kept handler handler) (call : Nat → Operation → SiteCall) :
    ∀ handler ∈ watchChain (fun place op => call place (like.shown op)) handlers,
      like.logging.Kept handler handler := by
  intro handler member
  obtain ⟨place, inside, rfl⟩ := List.mem_mapIdx.mp member
  exact (kept handlers[place] (List.getElem_mem inside)).watched (call place)

theorem work_watchWork {work : Context → World δ ε υ → Except φ α × World δ ε υ}
    {work' : Context → World δ' ε' υ' → Except φ α × World δ' ε' υ'}
    (works : ∀ context world world', like.world world world' →
      (work context world).1 = (work' context world').1 ∧
        like.world (work context world).2 (work' context world').2)
    (context : Context) (world : World δ ε (υ × List SiteCall))
    (world' : World δ' ε' (υ' × List SiteCall))
    (alike : like.logging.world world world') :
    (watchWork work context world).1 = (watchWork work' context world').1 ∧
      like.logging.world (watchWork work context world).2 (watchWork work' context world').2 := by
  obtain ⟨answer, worlds⟩ := works context _ _ alike.1
  exact ⟨answer, worlds, congrArg (· ++ [SiteCall.work context]) alike.2⟩

end Likeness

/-- A pipeline whose calls are kept as far as they are shown. -/
def Pipeline.watchedAs (shown : Operation → Operation) (pipeline : Pipeline δ ε υ) :
    Pipeline δ ε (υ × List SiteCall) where
  defaults := pipeline.defaults
  before := watchChain (fun place op => .before place (shown op)) pipeline.before
  after := watchChain (fun place op => .after place (shown op)) pipeline.after
  logger := pipeline.logger

/-- Watched call sites on one pipeline keep a likeness if its handlers do. -/
theorem Likeness.Joins.watched {like : Likeness δ ε υ δ ε υ} {site site' : CallSite}
    {pipeline : Pipeline δ ε υ} {work work' : Context → World δ ε υ → Except φ α × World δ ε υ}
    (joins : like.Joins site site' pipeline pipeline work work')
    (kept : ∀ handler ∈ pipeline.before ++ pipeline.after, like.Kept handler handler) :
    like.logging.Joins site site' (pipeline.watchedAs like.shown) (pipeline.watchedAs like.shown)
      (watchWork work) (watchWork work') := by
  constructor
  · exact kept_runHandlers (kept_watchChain
      (fun handler member => kept handler (List.mem_append_left _ member)) .before)
  · exact kept_runHandlers (kept_watchChain
      (fun handler member => kept handler (List.mem_append_right _ member)) .after)
  · intro world world' alike
    exact joins.opening world.unlogged world'.unlogged alike.1
  · intro left left' error world world' shown alike
    exact joins.closing left left' error world.unlogged world'.unlogged shown alike.1
  · exact Likeness.work_watchWork joins.work

end Tapline
