import Mathlib.Data.List.Infix
import Tapline.Disk.Basic
/-!
# What paths lead to after a change

Dropping a tree, moving one and putting a node in place change what a path leads to in one simple
way each. Directories that are reached name by name from the root stay as they are when a path is
dropped or moved that leads to no directory, so a walk that ended somewhere ends there again.
-/

namespace Tapline

theorem bind_eq_ok_iff {ε α β : Type} {x : Except ε α} {f : α → Except ε β} {b : β} :
    x >>= f = .ok b ↔ ∃ a, x = .ok a ∧ f a = .ok b := by
  cases x with
  | error e => simp [bind, Except.bind]
  | ok a => simp [bind, Except.bind]

/-! ### Looking up in a changed list -/

section Lookup

variable {α : Type u} {key : Path}

theorem lookup_filter (keep : Path → Bool) (entries : List (Path × α)) :
    (entries.filter fun entry => keep entry.1).lookup key =
      if keep key then entries.lookup key else none := by
  induction entries with
  | nil => simp
  | cons entry entries ih =>
    obtain ⟨path, node⟩ := entry
    by_cases same : key = path
    · subst same
      by_cases kept : keep key = true <;> simp [kept, ih]
    · have differ : (key == path) = false := by simpa using same
      by_cases kept : keep path = true <;> simp [kept, ih, List.lookup_cons, differ]

/-- Entries whose keys are moved so that only one comes to lie at a key. -/
theorem lookup_map_of_iff {move : Path → Path} (source : Path) {entries : List (Path × α)}
    (only : ∀ entry ∈ entries, move entry.1 = key ↔ entry.1 = source) :
    (entries.map fun entry => (move entry.1, entry.2)).lookup key = entries.lookup source := by
  induction entries with
  | nil => rfl
  | cons entry entries ih =>
    obtain ⟨path, node⟩ := entry
    have here := only (path, node) List.mem_cons_self
    have rest := ih fun entry later => only entry (List.mem_cons_of_mem _ later)
    simp only [List.map_cons, List.lookup_cons, rest]
    by_cases same : path = source
    · subst same
      simp [here.mpr rfl]
    · have moved : ¬ move path = key := fun equal => same (here.mp equal)
      simp [beq_eq_false_iff_ne.mpr (Ne.symm same), beq_eq_false_iff_ne.mpr (Ne.symm moved)]

theorem lookup_map_eq_none {move : Path → Path} {entries : List (Path × α)}
    (never : ∀ entry ∈ entries, move entry.1 ≠ key) :
    (entries.map fun entry => (move entry.1, entry.2)).lookup key = none := by
  induction entries with
  | nil => rfl
  | cons entry entries ih =>
    obtain ⟨path, node⟩ := entry
    have here := never (path, node) List.mem_cons_self
    have rest := ih fun entry later => never entry (List.mem_cons_of_mem _ later)
    simp [List.lookup_cons, rest, beq_eq_false_iff_ne.mpr (Ne.symm here)]

end Lookup

namespace Disk

variable {disk disk' : Disk}

theorem node?_nil (disk : Disk) : disk.node? [] = some .directory := rfl

theorem node?_of_ne_nil {path : Path} (named : path ≠ []) :
    disk.node? path = disk.nodes.lookup path := by
  cases path with
  | nil => exact absurd rfl named
  | cons name rest => rfl

theorem node?_congr (same : disk'.nodes = disk.nodes) (path : Path) :
    disk'.node? path = disk.node? path := by
  rw [node?, node?, same]

theorem node?_setNode {path : Path} (named : path ≠ []) (node : Node) (other : Path) :
    (disk.setNode path node).node? other =
      if other = path then some node else disk.node? other := by
  by_cases root : other = []
  · subst root
    rw [if_neg (Ne.symm named), node?_nil, node?_nil]
  · rw [node?_of_ne_nil root, node?_of_ne_nil root, setNode, List.lookup_cons]
    by_cases same : other = path
    · simp [same]
    · rw [beq_eq_false_iff_ne.mpr same, if_neg same, lookup_filter (· != path)]
      simp [same]

theorem node?_addFile {path : Path} (named : path ≠ []) (other : Path) :
    (disk.addFile path).2.node? other =
      if other = path then some (.file disk.contents.size) else disk.node? other := by
  rw [← node?_setNode named]
  exact node?_congr rfl other

theorem node?_dropTree {path : Path} (named : path ≠ []) (other : Path) :
    (disk.dropTree path).node? other = if path <+: other then none else disk.node? other := by
  by_cases root : other = []
  · subst root
    rw [if_neg (by simpa using named), node?_nil, node?_nil]
  · rw [node?_of_ne_nil root, node?_of_ne_nil root, dropTree,
      lookup_filter fun entry => !path.isPrefixOf entry]
    by_cases below : path <+: other
    · simp [below, List.isPrefixOf_iff_prefix.mpr below]
    · simp [below, List.isPrefixOf_iff_prefix]

/-- Where an entry lies after a tree was moved. -/
def relocate (source target path : Path) : Path :=
  if source.isPrefixOf path then target ++ path.drop source.length else path

theorem relocate_of_below {source target path : Path} (below : source <+: path) :
    relocate source target path = target ++ path.drop source.length := by
  rw [relocate, if_pos (List.isPrefixOf_iff_prefix.mpr below)]

theorem relocate_of_beside {source target path : Path} (apart : ¬ source <+: path) :
    relocate source target path = path := by
  rw [relocate, if_neg (mt List.isPrefixOf_iff_prefix.mp apart)]

theorem nodes_moveTree (source target : Path) :
    (disk.moveTree source target).nodes =
      (disk.dropTree target).nodes.map fun entry => (relocate source target entry.1, entry.2) := by
  refine List.map_congr_left fun entry _ => ?_
  unfold relocate
  split <;> rfl

theorem not_prefix_of_mem_dropTree {path : Path} {entry : Path × Node}
    (member : entry ∈ (disk.dropTree path).nodes) : ¬ path <+: entry.1 := by
  intro below
  have kept := (List.mem_filter.mp member).2
  rw [List.isPrefixOf_iff_prefix.mpr below] at kept
  cases kept

section Move

variable {source target : Path}

theorem node?_moveTree_target (sourceNamed : source ≠ []) (targetNamed : target ≠ [])
    (apart : ¬ target <+: source) :
    (disk.moveTree source target).node? target = disk.node? source := by
  rw [node?_of_ne_nil targetNamed, nodes_moveTree, lookup_map_of_iff source]
  · rw [← node?_of_ne_nil sourceNamed, node?_dropTree targetNamed, if_neg apart]
  · intro entry member
    -- What lay at the target was dropped, so only the source comes to lie there.
    have dropped := not_prefix_of_mem_dropTree member
    by_cases below : source <+: entry.1
    · obtain ⟨rest, split⟩ := below
      rw [relocate_of_below ⟨rest, split⟩, ← split]
      simp
    · rw [relocate_of_beside below]
      constructor
      · rintro rfl
        exact absurd List.prefix_rfl dropped
      · intro same
        exact absurd (same ▸ List.prefix_rfl) below

theorem node?_moveTree_source (sourceNamed : source ≠ []) (apart : ¬ target <+: source) :
    (disk.moveTree source target).node? source = none := by
  rw [node?_of_ne_nil sourceNamed, nodes_moveTree, lookup_map_eq_none]
  intro entry member
  by_cases below : source <+: entry.1
  · rw [relocate_of_below below]
    exact fun same => apart ⟨_, same⟩
  · rw [relocate_of_beside below]
    exact fun same => below (same ▸ List.prefix_rfl)

theorem node?_moveTree_of_apart (targetNamed : target ≠ []) {other : Path}
    (beside : ¬ source <+: other) (outside : ¬ target <+: other) :
    (disk.moveTree source target).node? other = disk.node? other := by
  by_cases root : other = []
  · subst root
    rfl
  · rw [node?_of_ne_nil root, nodes_moveTree, lookup_map_of_iff other]
    · rw [← node?_of_ne_nil root, node?_dropTree targetNamed, if_neg outside]
    · intro entry _
      by_cases below : source <+: entry.1
      · rw [relocate_of_below below]
        constructor
        · exact fun same => absurd ⟨_, same⟩ outside
        · exact fun same => absurd (same ▸ below) beside
      · rw [relocate_of_beside below]

end Move

/-! ### Walks -/

/-- A path that can be gone name by name: it and every path before it lead to directories. -/
def Traversable (disk : Disk) (path : Path) : Prop :=
  ∀ before, before <+: path → disk.node? before = some .directory

theorem traversable_nil : disk.Traversable [] := by
  intro before inside
  rw [List.prefix_nil.mp inside]
  rfl

theorem find_eq_ok_iff {directory : Path} {name : String} {node : Option Node} :
    disk.find directory name = .ok node ↔
      name.utf8ByteSize ≤ greatestName ∧ disk.node? (directory ++ [name]) = node := by
  unfold find
  split
  next long => simp [Nat.not_le.mpr long]
  next short => simp [Nat.not_lt.mp short]

theorem follow_into_eq_ok_iff {directory path : Path} {name : String} :
    disk.follow directory (.into name) = .ok path ↔ disk.find directory name =
      .ok (some .directory) ∧ path = directory ++ [name] := by
  unfold follow
  cases found : disk.find directory name with
  | error fault => simp [found, bind, Except.bind]
  | ok node =>
    rcases node with _ | inode | _
    · simp [found, bind, Except.bind]
    · simp [found, bind, Except.bind]
    · simp [found, bind, Except.bind, eq_comm]

theorem Traversable.follow {directory path : Path} {step : PathStep}
    (traversable : disk.Traversable directory) (followed : disk.follow directory step = .ok path) :
    disk.Traversable path := by
  cases step with
  | out =>
    obtain rfl : directory.dropLast = path := Except.ok.inj followed
    -- Going out leads to a path before, which can be reached as well.
    exact fun before inside => traversable before (inside.trans (List.dropLast_prefix directory))
  | into name =>
    obtain ⟨found, rfl⟩ := follow_into_eq_ok_iff.mp followed
    intro before inside
    rcases List.prefix_concat_iff.mp inside with rfl | inside
    · exact (find_eq_ok_iff.mp found).2
    · exact traversable before inside

/-- A change that leaves every directory that can be reached in place. -/
def Keeps (disk disk' : Disk) : Prop := ∀ path, disk.Traversable path → disk'.Traversable path

theorem Keeps.follow (keeps : Keeps disk disk') {directory path : Path} {step : PathStep}
    (traversable : disk.Traversable directory) (followed : disk.follow directory step = .ok path) :
    disk'.follow directory step = .ok path := by
  -- The directory that is reached is kept, and with it the step.
  have target := traversable.follow followed
  cases step with
  | out => exact followed
  | into name =>
    obtain ⟨found, rfl⟩ := follow_into_eq_ok_iff.mp followed
    have short := (find_eq_ok_iff.mp found).1
    have there := keeps _ target _ List.prefix_rfl
    exact follow_into_eq_ok_iff.mpr ⟨find_eq_ok_iff.mpr ⟨short, there⟩, rfl⟩

/-- The induction goes along the way, from any directory that can be reached. -/
theorem foldlM_follow_of_keeps (keeps : Keeps disk disk') {way : List PathStep}
    {directory path : Path} (traversable : disk.Traversable directory)
    (walked : way.foldlM disk.follow directory = .ok path) :
    disk.Traversable path ∧ way.foldlM disk'.follow directory = .ok path := by
  induction way generalizing directory with
  | nil =>
    obtain rfl : directory = path := Except.ok.inj walked
    exact ⟨traversable, rfl⟩
  | cons step way ih =>
    rw [List.foldlM_cons] at walked ⊢
    cases followed : disk.follow directory step with
    | error fault =>
      rw [followed] at walked
      cases walked
    | ok next =>
      rw [followed] at walked
      rw [keeps.follow traversable followed]
      exact ih (traversable.follow followed) walked

theorem Keeps.walk (keeps : Keeps disk disk') {way : List PathStep} {path : Path}
    (walked : disk.walk way = .ok path) : disk'.walk way = .ok path :=
  (foldlM_follow_of_keeps keeps traversable_nil walked).2

/-- A path that leads to no directory has nothing that can be reached below it. -/
theorem Traversable.apart {directory path before : Path} (traversable : disk.Traversable directory)
    (other : disk.node? path ≠ some .directory) (inside : before <+: directory) :
    ¬ path <+: before :=
  fun below => other (traversable path (below.trans inside))

theorem ne_nil_of_node? {path : Path} (other : disk.node? path ≠ some .directory) : path ≠ [] := by
  rintro rfl
  exact other rfl

theorem keeps_of_node? (same : ∀ path, disk'.node? path = disk.node? path) :
    Keeps disk disk' := by
  intro path traversable before inside
  rw [same]
  exact traversable before inside

theorem keeps_setNode {path : Path} (other : disk.node? path ≠ some .directory) (node : Node) :
    Keeps disk (disk.setNode path node) := by
  intro directory traversable before inside
  have differ : before ≠ path := fun same =>
    traversable.apart other inside (same ▸ List.prefix_rfl)
  rw [node?_setNode (ne_nil_of_node? other), if_neg differ]
  exact traversable before inside

theorem keeps_addFile {path : Path} (other : disk.node? path ≠ some .directory) :
    Keeps disk (disk.addFile path).2 := by
  intro directory traversable before inside
  rw [← keeps_setNode other (.file disk.contents.size) directory traversable before inside]
  exact node?_congr rfl before

theorem keeps_dropTree {path : Path} (other : disk.node? path ≠ some .directory) :
    Keeps disk (disk.dropTree path) := by
  intro directory traversable before inside
  rw [node?_dropTree (ne_nil_of_node? other), if_neg (traversable.apart other inside)]
  exact traversable before inside

theorem keeps_moveTree {source target : Path} (moved : disk.node? source ≠ some .directory)
    (covered : disk.node? target ≠ some .directory) :
    Keeps disk (disk.moveTree source target) := by
  intro directory traversable before inside
  rw [node?_moveTree_of_apart (ne_nil_of_node? covered) (traversable.apart moved inside)
    (traversable.apart covered inside)]
  exact traversable before inside

end Disk

end Tapline
