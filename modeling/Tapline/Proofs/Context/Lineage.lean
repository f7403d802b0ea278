import Mathlib.Data.List.Induction
import Tapline.Proofs.Breadcrumb.Window
/-!
# The lineage of contexts

A program begins with contexts of nothing in particular and derives others from them, in trees of
any shape. What a context holds is told by the derivations on the way to it from its root: the
earliest deadline among them, and of everything else what was set last, where a new identifier
replaces that of the request and nothing more. Nothing that is derived later changes a context. Only
trails are shared: a crumb that is pushed through one context is seen through exactly those that
have the same trail.

## Main result

`contexts_follow_paths`.

## Proof strategy

One derivation takes a context that follows its path to one that follows the longer path
(`Context.Follows.derive`). A member of a family is never touched again, so both this and that its
trail exists are kept by every act (`ContextFamily.Sound.act`). What a push does to the trails is
`World.trail_pushCrumb`.
-/

namespace Tapline

/-- One way to derive a context from another. -/
inductive Derivation where
  | request (request : RequestMeta)
  | requestId (uuid : String)
  | span (span : Option SpanRef)
  | trail (trail : TrailRef)
  | deadline (deadline : Instant)
  | timeout (now : Instant) (timeout : Duration)
  | value (entry : Sealed)

namespace Derivation

def childOf? (context : Context) : Derivation → Option Context
  | request asked => some (context.withRequest asked)
  | requestId uuid => some (context.withRequestId uuid)
  | span within => some (context.withSpan within)
  | trail ref => some (context.withTrail ref)
  | deadline last => some (context.withDeadline last)
  | timeout now wait => context.withTimeout? now wait
  | value entry => some (context.withValue entry.type entry.value)

/-! What a derivation sets. -/

def request? : Derivation → Option RequestMeta
  | request asked => some asked
  | _ => none

def uuid? : Derivation → Option String
  | request asked => some asked.uuid
  | requestId uuid => some uuid
  | _ => none

/-- A span is set or cleared. -/
def span? : Derivation → Option (Option SpanRef)
  | span within => some within
  | _ => none

def trail? : Derivation → Option TrailRef
  | trail ref => some ref
  | _ => none

def deadline? : Derivation → Option Instant
  | deadline last => some last
  | timeout now wait => now.after? wait
  | _ => none

def stored? : Derivation → Option ((type : PlainType) × type.Carrier)
  | value entry => some ⟨entry.type, entry.value⟩
  | _ => none

end Derivation

namespace Slots

variable {τ : Type u} {Carrier : τ → Type v} [DecidableEq τ]

/-- Values that are stored one after the other. -/
def storing (entries : List ((tag : τ) × Carrier tag)) : Slots Carrier :=
  entries.foldl (fun slots entry => slots.put entry.1 entry.2) empty

/-- The value, if it is of the type asked for. -/
def valueOf? (tag : τ) (entry : (tag : τ) × Carrier tag) : Option (Carrier tag) :=
  if same : entry.1 = tag then some (same ▸ entry.2) else none

end Slots

/-- A context is told by the derivations that have led to it. -/
structure Context.Follows (context : Context) (path : List Derivation) : Prop where
  deadline : context.deadline.map Instant.nanos =
    ((path.filterMap (·.deadline?)).map Instant.nanos).min?
  request : context.request = (path.filterMap (·.uuid?)).getLast?.map fun uuid =>
    { ((path.filterMap (·.request?)).getLast?).getD .blank with uuid }
  span : context.span = (path.filterMap (·.span?)).getLast?.join
  trail : context.trail = (path.filterMap (·.trail?)).getLast?
  values : context.values = .storing (path.filterMap (·.stored?))

/-! ### One derivation -/

theorem min?_concat (ns : List Nat) (n : Nat) :
    (ns ++ [n]).min? = some ((ns.min?.map (min · n)).getD n) := by
  cases ns with
  | nil => rfl
  | cons m rest => simp only [List.cons_append, List.min?_cons', List.foldl_append]; rfl

theorem getLast?_filterMap_concat {α : Type u} {β : Type v} (f : α → Option β) (xs : List α)
    (x : α) : ((xs ++ [x]).filterMap f).getLast? = (f x).or (xs.filterMap f).getLast? := by
  cases set : f x <;> simp [set]

/-- Of several values of one type the last is found, and values of other types do not matter. -/
theorem Slots.get?_storing {τ : Type u} {Carrier : τ → Type v} [DecidableEq τ]
    (entries : List ((tag : τ) × Carrier tag)) (tag : τ) :
    (storing entries).get? tag = (entries.filterMap (valueOf? tag)).getLast? := by
  induction entries using List.reverseRecOn with
  | nil => rfl
  | append_singleton older newest ih =>
    rw [getLast?_filterMap_concat, ← ih, storing, List.foldl_append]
    simp only [List.foldl_cons, List.foldl_nil, get?_put, valueOf?]
    split <;> rfl

theorem Instant.nanos_earlier (a b : Instant) : (a.earlier b).nanos = min a.nanos b.nanos := by
  unfold earlier
  split <;> omega

namespace Derivation

theorem request?_eq_none (derivation : Derivation) (unnamed : derivation.uuid? = none) :
    derivation.request? = none := by
  cases derivation <;> simp_all [uuid?, request?]

theorem lastRequest_eq_none {path : List Derivation}
    (unnamed : (path.filterMap (·.uuid?)).getLast? = none) :
    (path.filterMap (·.request?)).getLast? = none := by
  simp only [List.getLast?_eq_none_iff, List.filterMap_eq_nil_iff] at unnamed ⊢
  exact fun derivation member => derivation.request?_eq_none (unnamed derivation member)

end Derivation

namespace Context

theorem follows_background : background.Follows [] :=
  ⟨rfl, rfl, rfl, rfl, rfl⟩

section

variable {context child : Context} {derivation : Derivation}
  (derived : derivation.childOf? context = some child)

/-! Each derivation changes what it sets, and leaves the rest as it is. -/

include derived

theorem span_of_derived : child.span = derivation.span?.getD context.span := by
  cases derivation with
  | timeout now wait =>
    obtain ⟨last, named, rfl⟩ := Option.map_eq_some_iff.mp derived
    rfl
  | _ =>
    obtain rfl := Option.some.inj derived
    rfl

theorem trail_of_derived : child.trail = derivation.trail?.or context.trail := by
  cases derivation with
  | timeout now wait =>
    obtain ⟨last, named, rfl⟩ := Option.map_eq_some_iff.mp derived
    rfl
  | _ =>
    obtain rfl := Option.some.inj derived
    rfl

theorem request_of_derived : child.request = (derivation.uuid?.map fun uuid =>
    { derivation.request?.getD (context.request.getD .blank) with uuid }).or context.request := by
  cases derivation with
  | timeout now wait =>
    obtain ⟨last, named, rfl⟩ := Option.map_eq_some_iff.mp derived
    rfl
  | _ =>
    obtain rfl := Option.some.inj derived
    rfl

theorem values_of_derived : child.values = derivation.stored?.toList.foldl
    (fun slots entry => slots.put entry.1 entry.2) context.values := by
  cases derivation with
  | timeout now wait =>
    obtain ⟨last, named, rfl⟩ := Option.map_eq_some_iff.mp derived
    rfl
  | _ =>
    obtain rfl := Option.some.inj derived
    rfl

theorem deadline_of_derived : child.deadline.map Instant.nanos =
    (derivation.deadline?.map fun last => ((context.deadline.map Instant.nanos).map
      (min · last.nanos)).getD last.nanos).or (context.deadline.map Instant.nanos) := by
  -- A timeout sets the deadline that it ends with, so both go by the same rule.
  have sets : ∀ last, (context.withDeadline last).deadline.map Instant.nanos =
      some (((context.deadline.map Instant.nanos).map (min · last.nanos)).getD last.nanos) := by
    intro last
    rw [withDeadline_deadline]
    cases context.deadline <;> simp [Instant.nanos_earlier]
  cases derivation with
  | deadline last =>
    obtain rfl := Option.some.inj derived
    exact sets last
  | timeout now wait =>
    obtain ⟨last, named, rfl⟩ := Option.map_eq_some_iff.mp derived
    rw [sets, Derivation.deadline?, named]
    rfl
  | _ =>
    obtain rfl := Option.some.inj derived
    rfl

end

theorem Follows.derive {context child : Context} {path : List Derivation}
    (follows : context.Follows path) {derivation : Derivation}
    (derived : derivation.childOf? context = some child) :
    child.Follows (path ++ [derivation]) := by
  constructor
  · rw [deadline_of_derived derived, follows.deadline]
    cases set : derivation.deadline? with
    | none => simp [set]
    | some last => simp [set, min?_concat]
  · rw [request_of_derived derived, getLast?_filterMap_concat, getLast?_filterMap_concat,
      follows.request]
    -- A new request has its identifier with it; a new identifier leaves the rest as it is.
    cases identified : derivation.uuid? with
    | none => simp [derivation.request?_eq_none identified]
    | some uuid =>
      cases asked : derivation.request? with
      | some request => simp
      | none =>
        cases earlier : (path.filterMap (·.uuid?)).getLast? with
        | none => simp [Derivation.lastRequest_eq_none earlier]
        | some old => simp
  · rw [span_of_derived derived, getLast?_filterMap_concat, follows.span]
    cases derivation.span? <;> rfl
  · rw [trail_of_derived derived, getLast?_filterMap_concat, follows.trail]
  · rw [values_of_derived derived, follows.values, Slots.storing, Slots.storing,
      List.filterMap_append, List.foldl_append]
    cases set : derivation.stored? <;> simp [set]

end Context

/-! ### Families -/

/-- What a program does with contexts and the trails that they share. Contexts are called by their
numbers. -/
inductive FamilyAct where
  | found
  | derive (parent : Nat) (derivation : Derivation)
  | makeTrail (capacity : Nat)
  | push (through : Nat) (crumb : Breadcrumb)

/-- A context with the derivations on the way to it from its root. -/
structure Descendant where
  path : List Derivation
  context : Context

/-- The contexts of a program, in the world that has their trails. -/
structure ContextFamily (δ ε υ : Type) where
  world : World δ ε υ
  members : List Descendant

variable {δ ε υ : Type}

/-- The trail of a context as it is in a world. -/
def Context.trailIn? (context : Context) (world : World δ ε υ) : Option Trail :=
  context.trail.map world.trail

/-- A trail must be there, and the clock must not end before a deadline. -/
def Derivation.possible (world : World δ ε υ) : Derivation → Bool
  | trail ref => ref.index < world.trails.length
  | timeout now wait => (now.after? wait).isSome
  | _ => true

def Descendant.derive? (member : Descendant) (world : World δ ε υ) (derivation : Derivation) :
    Option Descendant :=
  if derivation.possible world then
    (derivation.childOf? member.context).map fun context => ⟨member.path ++ [derivation], context⟩
  else none

namespace ContextFamily

def act (family : ContextFamily δ ε υ) : FamilyAct → ContextFamily δ ε υ
  | .found => { family with members := family.members ++ [⟨[], .background⟩] }
  | .derive parent derivation =>
    match family.members[parent]?.bind (·.derive? family.world derivation) with
    | none => family
    | some child => { family with members := family.members ++ [child] }
  | .makeTrail capacity => { family with world := (family.world.addTrail capacity).2 }
  | .push through crumb =>
    match family.members[through]?.bind (·.context.trail) with
    | none => family
    | some ref => { family with world := family.world.pushCrumb ref crumb }

def run (family : ContextFamily δ ε υ) (acts : List FamilyAct) : ContextFamily δ ε υ :=
  acts.foldl act family

/-- Each context follows its path and has a trail that exists, if it has one. -/
structure Sound (family : ContextFamily δ ε υ) : Prop where
  follows : ∀ member ∈ family.members, member.context.Follows member.path
  held : ∀ member ∈ family.members, ∀ ref, member.context.trail = some ref →
    ref.index < family.world.trails.length

end ContextFamily

theorem Derivation.childOf?_of_possible {world : World δ ε υ} {derivation : Derivation}
    (possible : derivation.possible world) (context : Context) :
    ∃ child, derivation.childOf? context = some child := by
  cases derivation with
  | timeout now wait =>
    obtain ⟨last, named⟩ := Option.isSome_iff_exists.mp possible
    exact ⟨context.withDeadline last, by simp [childOf?, Context.withTimeout?, named]⟩
  | _ => exact ⟨_, rfl⟩

theorem Descendant.derive?_of_possible {world : World δ ε υ} {derivation : Derivation}
    (possible : derivation.possible world) (member : Descendant) :
    ∃ child, member.derive? world derivation = some child ∧
      derivation.childOf? member.context = some child.context ∧
      child.path = member.path ++ [derivation] := by
  obtain ⟨context, derived⟩ := derivation.childOf?_of_possible possible member.context
  exact ⟨⟨member.path ++ [derivation], context⟩, by simp [derive?, possible, derived], derived, rfl⟩

/-- The trail of a child is there if that of its parent is. -/
theorem Descendant.derive?_eq_some {member child : Descendant} {world : World δ ε υ}
    {derivation : Derivation} (made : member.derive? world derivation = some child) :
    child.path = member.path ++ [derivation] ∧
      derivation.childOf? member.context = some child.context ∧
      ∀ ref, child.context.trail = some ref →
        member.context.trail = some ref ∨ ref.index < world.trails.length := by
  unfold derive? at made
  split at made
  next possible =>
    obtain ⟨context, derived, rfl⟩ := Option.map_eq_some_iff.mp made
    refine ⟨rfl, derived, ?_⟩
    intro ref held
    rw [Context.trail_of_derived derived] at held
    cases derivation with
    | trail other =>
      obtain rfl := Option.some.inj held
      exact .inr (by simpa [Derivation.possible] using possible)
    | _ => exact .inl held
  next => cases made

namespace ContextFamily

theorem act_derive (family : ContextFamily δ ε υ) (parent : Nat) (derivation : Derivation) :
    family.act (.derive parent derivation) = family ∨
    ∃ member child, family.members[parent]? = some member ∧
      member.derive? family.world derivation = some child ∧
      family.act (.derive parent derivation) =
        { family with members := family.members ++ [child] } := by
  rw [act]
  cases made : family.members[parent]?.bind (·.derive? family.world derivation) with
  | none => exact .inl rfl
  | some child =>
    obtain ⟨member, found, derived⟩ := Option.bind_eq_some_iff.mp made
    exact .inr ⟨member, child, found, derived, rfl⟩

theorem act_push (family : ContextFamily δ ε υ) (through : Nat) (crumb : Breadcrumb) :
    (family.act (.push through crumb) = family ∧
      family.members[through]?.bind (·.context.trail) = none) ∨
    ∃ ref, family.members[through]?.bind (·.context.trail) = some ref ∧
      family.act (.push through crumb) =
        { family with world := family.world.pushCrumb ref crumb } := by
  rw [act]
  cases family.members[through]?.bind (·.context.trail) with
  | none => exact .inl ⟨rfl, rfl⟩
  | some ref => exact .inr ⟨ref, rfl, rfl⟩

theorem Sound.add {family : ContextFamily δ ε υ} (sound : family.Sound) {child : Descendant}
    (follows : child.context.Follows child.path)
    (held : ∀ ref, child.context.trail = some ref → ref.index < family.world.trails.length) :
    Sound { family with members := family.members ++ [child] } := by
  constructor
  · intro member inside
    rcases List.mem_append.mp inside with older | new
    · exact sound.follows member older
    · rw [List.mem_singleton.mp new]
      exact follows
  · intro member inside
    rcases List.mem_append.mp inside with older | new
    · exact sound.held member older
    · rw [List.mem_singleton.mp new]
      exact held

theorem Sound.act {family : ContextFamily δ ε υ} (sound : family.Sound) (act : FamilyAct) :
    (family.act act).Sound := by
  cases act with
  | found => exact sound.add Context.follows_background nofun
  | derive parent derivation =>
    rcases family.act_derive parent derivation with same | ⟨member, child, found, derived, grown⟩
    · rw [same]
      exact sound
    · have inside := List.mem_of_getElem? found
      obtain ⟨path, applied, trail⟩ := Descendant.derive?_eq_some derived
      rw [grown]
      apply sound.add
      -- The path and the context are those of the parent, and one derivation more.
      · rw [path]
        exact (sound.follows member inside).derive applied
      -- The trail is that of the parent, or a new one that was looked for.
      · intro ref held
        rcases trail ref held with inherited | there
        · exact sound.held member inside ref inherited
        · exact there
  | makeTrail capacity =>
    -- Trails are added at the end, so the old ones are still there.
    refine ⟨sound.follows, ?_⟩
    intro member inside ref held
    have known := sound.held member inside ref held
    simp only [ContextFamily.act, World.addTrail, List.length_append]
    omega
  | push through crumb =>
    rcases family.act_push through crumb with ⟨same, -⟩ | ⟨ref, -, pushed⟩
    · rw [same]
      exact sound
    · rw [pushed]
      refine ⟨sound.follows, ?_⟩
      intro member inside other held
      simpa [World.pushCrumb] using sound.held member inside other held

theorem sound_run {family : ContextFamily δ ε υ} (sound : family.Sound) (acts : List FamilyAct) :
    (family.run acts).Sound := by
  induction acts generalizing family with
  | nil => exact sound
  | cons first rest ih => exact ih (sound.act first)

theorem members_act (family : ContextFamily δ ε υ) (act : FamilyAct) :
    family.members <+: (family.act act).members := by
  cases act with
  | found => exact List.prefix_append _ _
  | derive parent derivation =>
    rcases family.act_derive parent derivation with same | ⟨member, child, -, -, grown⟩
    · simp only [same, List.prefix_rfl]
    · simp only [grown, List.prefix_append]
  | makeTrail capacity => exact List.prefix_rfl
  | push through crumb =>
    rcases family.act_push through crumb with ⟨same, -⟩ | ⟨ref, -, pushed⟩
    · simp only [same, List.prefix_rfl]
    · simp only [pushed, List.prefix_rfl]

theorem members_run (family : ContextFamily δ ε υ) (acts : List FamilyAct) :
    family.members <+: (family.run acts).members := by
  induction acts generalizing family with
  | nil => exact List.prefix_rfl
  | cons first rest ih => exact (family.members_act first).trans (ih (family.act first))

end ContextFamily

/-- **Contexts follow their paths.** After any program, what each context holds is told by the
derivations on its path from the root: the earliest deadline set, the request set last with the
identifier set last, the span and the trail set last, and the values that were stored, where of
each type, and of whatever types there are, the last is found. A derivation that is possible gives a
child at the end of its parent's path and does nothing else. A context stays as it is through
whatever is done later. A push through a context is seen through exactly the contexts that have its
trail. -/
theorem contexts_follow_paths (world : World δ ε υ) (acts : List FamilyAct) :
    let family := ContextFamily.run ⟨world, []⟩ acts
    (∀ member ∈ family.members, member.context.Follows member.path) ∧
    (∀ {τ : Type u} {Carrier : τ → Type v} [DecidableEq τ]
      (entries : List ((tag : τ) × Carrier tag)) (tag : τ),
      (Slots.storing entries).get? tag =
        (entries.filterMap (Slots.valueOf? tag)).getLast?) ∧
    (∀ parent member derivation, family.members[parent]? = some member →
      derivation.possible family.world →
      ∃ child, derivation.childOf? member.context = some child.context ∧
        child.path = member.path ++ [derivation] ∧
        family.act (.derive parent derivation) =
          { family with members := family.members ++ [child] }) ∧
    (∀ later, family.members <+: (family.run later).members) ∧
    ∀ through member crumb, family.members[through]? = some member →
      let pushed := family.act (.push through crumb)
      pushed.members = family.members ∧
      ∀ other ∈ family.members, other.context.trailIn? pushed.world =
        if other.context.trail = member.context.trail then
          (other.context.trailIn? family.world).map (·.push crumb)
        else other.context.trailIn? family.world := by
  intro family
  have sound : family.Sound := ContextFamily.sound_run ⟨by simp, by simp⟩ acts
  refine ⟨sound.follows, Slots.get?_storing, ?_, family.members_run, ?_⟩
  · intro parent member derivation found possible
    obtain ⟨child, derived, applied, path⟩ := member.derive?_of_possible possible
    refine ⟨child, applied, path, ?_⟩
    simp only [ContextFamily.act, found, Option.bind_some, derived]
  · intro through member crumb found pushed
    rcases family.act_push through crumb with ⟨same, nowhere⟩ | ⟨ref, held, changed⟩
    · have same : pushed = family := same
      rw [found] at nowhere
      rw [same]
      refine ⟨rfl, fun other inside => ?_⟩
      -- Nothing is pushed, and another context without a trail shows none either.
      split
      next alike => simp [Context.trailIn?, alike.trans nowhere]
      next => rfl
    · have changed : pushed = { family with world := family.world.pushCrumb ref crumb } := changed
      rw [found] at held
      have held : member.context.trail = some ref := held
      rw [changed, held]
      refine ⟨rfl, fun other inside => ?_⟩
      cases theirs : other.context.trail with
      | none => simp [Context.trailIn?, theirs]
      | some shown =>
        -- A trail that a context has exists, and then a push is seen there and nowhere else.
        have known := sound.held other inside shown theirs
        simp only [Context.trailIn?, theirs, Option.map_some, Option.some.injEq,
          World.trail_pushCrumb _ known]
        split <;> rfl

/-- A timeout that ends before an earlier deadline, a new identifier and a deadline that comes too
late; beside them a branch with a trail. A crumb that is pushed at the end of the branch is seen at
its beginning. -/
theorem lineage_with_branch :
    let world : World Unit Unit Unit := .fresh () (.counting ⟨0, 0⟩) ()
    let path : List Derivation := [.request ⟨"r", "/a", "GET"⟩, .deadline ⟨50⟩,
      .timeout ⟨10⟩ ⟨0, 20, by decide⟩, .requestId "n", .deadline ⟨90⟩]
    let acts : List FamilyAct := [.found, .makeTrail 2] ++
      path.zipIdx.map (fun step => .derive step.2 step.1) ++
      [.derive 0 (.trail ⟨0⟩), .derive 6 (.value ⟨.text, "v"⟩)]
    let family := ContextFamily.run ⟨world, []⟩ acts
    let pushed := family.act (.push 7 (.new ⟨0, 0⟩ "query"))
    ∃ trunk tip branch leaf, family.members[0]? = some trunk ∧ family.members[5]? = some tip ∧
      family.members[6]? = some branch ∧ family.members[7]? = some leaf ∧
      (tip.path = path ∧ tip.context.deadline.map Instant.nanos = some 30 ∧
        tip.context.request = some ⟨"n", "/a", "GET"⟩) ∧
      leaf.context.values.get? .text = some "v" ∧
      branch.context.trailIn? pushed.world = some ⟨2, [.new ⟨0, 0⟩ "query"]⟩ ∧
      trunk.context.trailIn? pushed.world = none := by
  intro world path acts family pushed
  have ends : (⟨10⟩ : Instant).after? ⟨0, 20, by decide⟩ = some ⟨30⟩ := by decide
  have grown : family.members.drop 5 =
      [⟨path, ((((Context.background.withRequest ⟨"r", "/a", "GET"⟩).withDeadline
          ⟨50⟩).withDeadline ⟨30⟩).withRequestId "n").withDeadline ⟨90⟩⟩,
        ⟨[.trail ⟨0⟩], Context.background.withTrail ⟨0⟩⟩,
        ⟨[.trail ⟨0⟩, .value ⟨.text, "v"⟩],
          (Context.background.withTrail ⟨0⟩).withValue .text "v"⟩] ∧
      family.members[0]? = some ⟨[], .background⟩ ∧ family.world.trail ⟨0⟩ = .ofCapacity 2 := by
    simp [family, ContextFamily.run, acts, path, ContextFamily.act, Descendant.derive?,
      Derivation.possible, Derivation.childOf?, Context.withTimeout?, ends, World.addTrail, world,
      World.fresh, World.trail]
  obtain ⟨later, trunk, empty⟩ := grown
  have tip := congrArg (·[0]?) later
  have branch := congrArg (·[1]?) later
  have leaf := congrArg (·[2]?) later
  simp only [List.getElem?_drop] at tip branch leaf
  obtain ⟨follows, stored, -, -, shared⟩ := contexts_follow_paths world acts
  have told := follows _ (List.mem_of_getElem? tip)
  have kept := follows _ (List.mem_of_getElem? leaf)
  have seen := (shared 7 _ (.new ⟨0, 0⟩ "query") leaf).2
  refine ⟨_, _, _, _, trunk, tip, branch, leaf, ⟨rfl, told.deadline.trans ?_, told.request⟩,
    ?_, (seen _ (List.mem_of_getElem? branch)).trans ?_,
    (seen _ (List.mem_of_getElem? trunk)).trans ?_⟩
  · simp [path, Derivation.deadline?, ends]
  · rw [kept.values]
    exact stored _ PlainType.text
  · -- The leaf has its trail from the branch.
    refine (if_pos rfl).trans ?_
    change (some (family.world.trail ⟨0⟩)).map _ = _
    rw [empty]
    rfl
  · rfl

end Tapline
