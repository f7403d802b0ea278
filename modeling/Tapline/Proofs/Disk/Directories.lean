import Tapline.Proofs.Disk.Slots
import Tapline.Proofs.Disk.Sound
/-!
# Making directories

Making directories puts directories where nothing was and does nothing else, whether it succeeds
or stops midway. So what was there before is there afterwards, and numbers of files stay known.
-/

namespace Tapline.Disk

variable {disk disk' disk'' : Disk}

/-- A change that puts directories where nothing was. -/
structure AddsDirectories (disk disk' : Disk) : Prop where
  contents : disk'.contents = disk.contents
  nodes : ∀ path, disk'.node? path = disk.node? path ∨
    disk.node? path = none ∧ disk'.node? path = some .directory
  listed : ∀ entry ∈ disk'.nodes, entry.2 = .directory ∨
    ∃ former ∈ disk.nodes, former.2 = entry.2

namespace AddsDirectories

theorem refl (disk : Disk) : AddsDirectories disk disk :=
  ⟨rfl, fun _ => Or.inl rfl, fun entry member => Or.inr ⟨entry, member, rfl⟩⟩

theorem trans (first : AddsDirectories disk disk') (second : AddsDirectories disk' disk'') :
    AddsDirectories disk disk'' := by
  refine ⟨second.contents.trans first.contents, fun path => ?_, fun entry member => ?_⟩
  · rcases second.nodes path with same | ⟨absent, made⟩
    · rw [same]
      exact first.nodes path
    · rcases first.nodes path with same | ⟨_, made'⟩
      · exact Or.inr ⟨same ▸ absent, made⟩
      · rw [made'] at absent
        cases absent
  · rcases second.listed entry member with directory | ⟨former, earlier, same⟩
    · exact Or.inl directory
    · rw [← same]
      exact first.listed former earlier

theorem node? (adds : AddsDirectories disk disk') {path : Path} {node : Node}
    (leads : disk.node? path = some node) : disk'.node? path = some node := by
  rcases adds.nodes path with same | ⟨absent, _⟩
  · rw [same, leads]
  · rw [leads] at absent
    cases absent

theorem keeps (adds : AddsDirectories disk disk') : Keeps disk disk' :=
  fun _ traversable before inside => adds.node? (traversable before inside)

theorem sound (adds : AddsDirectories disk disk') (sound : disk.Sound) : disk'.Sound :=
  sound.of_listed (Nat.le_of_eq (congrArg Array.size adds.contents.symm)) adds.listed

theorem nodeAt? (adds : AddsDirectories disk disk') {location : Location} {node : Node}
    (leads : disk.nodeAt? location = some node) : disk'.nodeAt? location = some node := by
  unfold Disk.nodeAt? at leads ⊢
  cases resolved : disk.resolve location with
  | error fault =>
    rw [resolved] at leads
    cases leads
  | ok pair =>
    obtain ⟨path, found⟩ := pair
    obtain rfl : found = some node := by simpa [resolved] using leads
    obtain ⟨directory, reached, resolved⟩ := bind_eq_ok_iff.mp resolved
    obtain ⟨checked, walked⟩ := reach_eq_ok_iff.mp reached
    -- The walk to the last name stays, and so does what the name leads to.
    have reached' := reach_eq_ok_iff.mpr ⟨checked, adds.keeps.walk walked⟩
    cases named : location.name with
    | none =>
      obtain ⟨rfl, ⟨⟩⟩ : directory = path ∧ some Node.directory = some node := by
        simpa [named] using resolved
      simp [resolve, reached', named, bind, Except.bind]
    | some name =>
      simp only [named] at resolved
      obtain ⟨node', looked, same⟩ := bind_eq_ok_iff.mp resolved
      obtain ⟨rfl, rfl⟩ : directory ++ [name] = path ∧ node' = some node := by
        simpa [pure, Except.pure] using same
      obtain ⟨short, there⟩ := find_eq_ok_iff.mp looked
      have looked' := find_eq_ok_iff.mpr ⟨short, adds.node? there⟩
      simp [resolve, reached', named, looked', bind, Except.bind, pure, Except.pure]

theorem contentAt? (adds : AddsDirectories disk disk') {location : Location}
    {content : ByteArray} (found : disk.contentAt? location = some content) :
    disk'.contentAt? location = some content := by
  unfold Disk.contentAt? at found ⊢
  cases leads : disk.nodeAt? location with
  | none =>
    rw [leads] at found
    cases found
  | some node =>
    rw [adds.nodeAt? leads]
    rw [leads] at found
    cases node with
    | directory => cases found
    | file inode => simpa [Disk.bytes, adds.contents] using found

end AddsDirectories

theorem node?_of_resolve {location : Location} {path : Path}
    (resolved : disk.resolve location = .ok (path, none)) : disk.node? path = none := by
  obtain ⟨directory, _, resolved⟩ := bind_eq_ok_iff.mp resolved
  cases named : location.name with
  | none => simp [named] at resolved
  | some name =>
    simp only [named] at resolved
    obtain ⟨node, looked, same⟩ := bind_eq_ok_iff.mp resolved
    obtain ⟨rfl, rfl⟩ : directory ++ [name] = path ∧ node = none := by
      simpa [pure, Except.pure] using same
    exact (find_eq_ok_iff.mp looked).2

theorem addsDirectories_setNode {path : Path} (absent : disk.node? path = none) :
    AddsDirectories disk (disk.setNode path .directory) := by
  have named : path ≠ [] := ne_nil_of_node? (by rw [absent]; nofun)
  refine ⟨rfl, fun other => ?_, fun entry member => ?_⟩
  · rw [node?_setNode named]
    by_cases same : other = path
    · subst same
      exact Or.inr ⟨absent, if_pos rfl⟩
    · exact Or.inl (if_neg same)
  · rcases List.mem_cons.mp member with rfl | kept
    · exact Or.inl rfl
    · exact Or.inr ⟨entry, List.mem_of_mem_filter kept, rfl⟩

theorem addsDirectories_ensureDirectory {location : Location}
    (made : disk.ensureDirectory location = .ok disk') : AddsDirectories disk disk' := by
  unfold ensureDirectory at made
  cases first : disk.makeDirectory location with
  | error fault =>
    rw [first] at made
    by_cases there : disk.isDirectory location = true
    · obtain rfl : disk = disk' := by simpa [there] using made
      exact .refl disk
    · simp [there] at made
  | ok after =>
    obtain rfl : after = disk' := by simpa [first] using made
    obtain ⟨⟨path, node⟩, resolved, first⟩ := bind_eq_ok_iff.mp first
    cases node with
    | some node => cases first
    | none =>
      obtain rfl : disk.setNode path .directory = after := by simpa using first
      exact addsDirectories_setNode (node?_of_resolve resolved)

/-- The induction is on how many directories may be made before the one asked for. -/
theorem addsDirectories_makeWithin (location : Location) (disk : Disk) (before : Nat) :
    AddsDirectories disk (makeWithin location disk before).2 := by
  induction before generalizing location disk with
  | zero => exact .refl disk
  | succ before ih =>
    simp only [makeWithin]
    cases made : disk.ensureDirectory location with
    | ok after => exact addsDirectories_ensureDirectory made
    | error fault =>
      cases fault with
      | notFound =>
        -- The directory outside is missing: it is made first, and this one tried again.
        have outer := ih location.parent disk
        cases inner : makeWithin location.parent disk before with
        | mk result after =>
          rw [inner] at outer
          cases result with
          | error fault => simpa only [inner] using outer
          | ok =>
            simp only [inner]
            cases again : after.ensureDirectory location with
            | ok last => exact outer.trans (addsDirectories_ensureDirectory again)
            | error fault => exact outer
      | _ => exact .refl disk

theorem addsDirectories_makeDirectories (location : Location) (disk : Disk) :
    AddsDirectories disk (disk.makeDirectories location).2 :=
  addsDirectories_makeWithin location disk _

/-! ### Whole operations keep a disk sound -/

theorem Sound.makeDirectories (sound : disk.Sound) (location : Location) :
    (disk.makeDirectories location).2.Sound :=
  (addsDirectories_makeDirectories location disk).sound sound

theorem Sound.putFile (sound : disk.Sound) (location : Location) (bytes : ByteArray) :
    (disk.putFile location bytes).Sound := by
  have made := sound.makeDirectories location.parent
  unfold Disk.putFile
  simp only
  split
  next inode after _ opened => exact (made.openFile opened).1.overwrite inode bytes
  · exact made

end Tapline.Disk
