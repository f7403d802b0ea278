import Mathlib.Logic.Function.Basic
import Tapline.Proofs.Disk.Nodes
/-!
# A file and its numbered neighbours

A location and the numbered files beside it share one directory, and different numbers have
different names. So each operation on them changes the row of what they lead to at the numbers it
names and nowhere else, and leaves the directory where it is.
-/

namespace Tapline

/-! ### Names -/

namespace Location

/-- A location, and behind it its numbered neighbours. -/
def slot (location : Location) : Nat → Location
  | 0 => location
  | n + 1 => location.numbered (n + 1)

/-- The last name of a slot. -/
def slotName (base : String) : Nat → String
  | 0 => base
  | n + 1 => base ++ ("." ++ toString (n + 1))

theorem way_slot (location : Location) (n : Nat) : (location.slot n).way = location.way := by
  cases n <;> rfl

theorem slash_slot (location : Location) (n : Nat) : (location.slot n).slash = location.slash := by
  cases n <;> rfl

theorem name_slot {location : Location} {base : String} (named : location.name = some base)
    (n : Nat) : (location.slot n).name = some (slotName base n) := by
  cases n with
  | zero => exact named
  | succ n => simp [slot, numbered, named, slotName]

theorem toString_nat_injective : Function.Injective (toString : Nat → String) := by
  intro m n same
  -- Decimal digits determine a number, and its text is made of them.
  have digits : Nat.toDigits 10 m = Nat.toDigits 10 n := by
    simpa using congrArg String.toList same
  rw [← Nat.ofDigitChars_ten_toDigits (n := m), digits, Nat.ofDigitChars_ten_toDigits]

theorem slotName_injective (base : String) : Function.Injective (slotName base) := by
  have longer : ∀ n, slotName base (n + 1) ≠ base := by
    intro n same
    -- A number adds characters to a name.
    have sizes := congrArg String.length same
    simp [slotName] at sizes
  intro m n same
  cases m with
  | zero =>
    cases n with
    | zero => rfl
    | succ n => exact absurd same.symm (longer n)
  | succ m =>
    cases n with
    | zero => exact absurd same (longer m)
    | succ n =>
      have numbers : toString (m + 1) = toString (n + 1) := by
        simpa [slotName] using same
      exact toString_nat_injective numbers

end Location

namespace Disk

/-- What a location leads to. -/
def nodeAt? (disk : Disk) (location : Location) : Option Node :=
  match disk.resolve location with
  | .ok (_, node) => node
  | .error _ => none

/-- The bytes of the file at a location. -/
def contentAt? (disk : Disk) (location : Location) : Option ByteArray :=
  match disk.nodeAt? location with
  | some (.file inode) => if location.slash then none else some (disk.bytes inode)
  | _ => none

/-- Where a disk holds nothing there is no file to read. -/
theorem contentAt?_eq_none {disk : Disk} {location : Location}
    (missing : disk.holds location = false) : disk.contentAt? location = none := by
  unfold holds at missing
  unfold contentAt? nodeAt?
  cases resolved : disk.resolve location with
  | error fault => rfl
  | ok pair =>
    obtain ⟨path, node⟩ := pair
    rw [resolved] at missing
    rcases node with _ | inode | _
    · rfl
    · exact if_pos (by simpa using missing)
    · cases missing

/-- What a location and its neighbours lead to. -/
def slots (disk : Disk) (location : Location) (n : Nat) : Option Node :=
  disk.nodeAt? (location.slot n)

/-- A location whose last name stands for a file and is looked up in a directory that is there. -/
structure Row (disk : Disk) (location : Location) (directory : Path) (base : String) : Prop where
  walked : disk.walk location.way = .ok directory
  named : location.name = some base
  plain : location.slash = false

/-- A location whose text and last name a disk accepts. -/
def Fits (location : Location) (name : String) : Prop :=
  checkText location = .ok () ∧ name.utf8ByteSize ≤ greatestName

theorem reach_eq_ok_iff {disk : Disk} {location : Location} {directory : Path} :
    disk.reach location = .ok directory ↔
      checkText location = .ok () ∧ disk.walk location.way = .ok directory := by
  unfold reach
  cases checked : checkText location with
  | error fault => simp [bind, Except.bind]
  | ok => simp [bind, Except.bind]

theorem resolve_eq_ok_iff {disk : Disk} {location : Location} {directory path : Path}
    {name : String} {node : Option Node} (walked : disk.walk location.way = .ok directory)
    (named : location.name = some name) :
    disk.resolve location = .ok (path, node) ↔ Fits location name ∧
      path = directory ++ [name] ∧ disk.node? (directory ++ [name]) = node := by
  unfold resolve
  cases reached : disk.reach location with
  | error fault =>
    -- The way is walked, so it is the text that is refused.
    have refused : checkText location ≠ .ok () := fun checked => by
      rw [reach_eq_ok_iff.mpr ⟨checked, walked⟩] at reached
      cases reached
    simp [bind, Except.bind, Fits, refused]
  | ok there =>
    obtain ⟨checked, walked'⟩ := reach_eq_ok_iff.mp reached
    obtain rfl : directory = there := Except.ok.inj (walked.symm.trans walked')
    cases found : disk.find directory name with
    | error fault =>
      have long : ¬ name.utf8ByteSize ≤ greatestName := fun short => by
        rw [find_eq_ok_iff.mpr ⟨short, rfl⟩] at found
        cases found
      simp [bind, Except.bind, named, found, Fits, long]
    | ok node' =>
      obtain ⟨short, found'⟩ := find_eq_ok_iff.mp found
      simp [bind, Except.bind, pure, Except.pure, named, found, Fits, checked, short, found',
        eq_comm]

namespace Row

variable {disk disk' : Disk} {location : Location} {directory : Path} {base : String}
  (row : Row disk location directory base)

include row

theorem resolve_slot {n : Nat} {path : Path} {node : Option Node} :
    disk.resolve (location.slot n) = .ok (path, node) ↔
      Fits (location.slot n) (Location.slotName base n) ∧
        path = directory ++ [Location.slotName base n] ∧
          disk.node? (directory ++ [Location.slotName base n]) = node :=
  resolve_eq_ok_iff (by rw [Location.way_slot, row.walked]) (Location.name_slot row.named n)

theorem slots_eq_some_iff {n : Nat} {node : Node} :
    disk.slots location n = some node ↔
      Fits (location.slot n) (Location.slotName base n) ∧
        disk.node? (directory ++ [Location.slotName base n]) = some node := by
  unfold slots nodeAt?
  cases resolved : disk.resolve (location.slot n) with
  | error fault =>
    constructor
    · nofun
    · rintro ⟨fits, leads⟩
      rw [row.resolve_slot.mpr ⟨fits, rfl, leads⟩] at resolved
      cases resolved
  | ok pair =>
    obtain ⟨path, node'⟩ := pair
    obtain ⟨fits, -, leads⟩ := row.resolve_slot.mp resolved
    simp [fits, leads]

theorem holds_slot (n : Nat) :
    disk.holds (location.slot n) = (disk.slots location n).isSome := by
  have plain : (location.slot n).slash = false := by rw [Location.slash_slot, row.plain]
  unfold holds slots nodeAt?
  cases disk.resolve (location.slot n) with
  | error fault => rfl
  | ok pair =>
    obtain ⟨path, _ | inode | _⟩ := pair
    · rfl
    · simp [plain]
    · rfl

theorem contentAt?_slot (n : Nat) :
    disk.contentAt? (location.slot n) =
      (disk.slots location n).bind fun
        | .file inode => some (disk.bytes inode)
        | .directory => none := by
  have plain : (location.slot n).slash = false := by rw [Location.slash_slot, row.plain]
  unfold contentAt? slots
  rcases disk.nodeAt? (location.slot n) with _ | inode | _
  · rfl
  · simp [plain]
  · rfl

theorem contentAt?_of_first {inode : Nat} (first : disk.slots location 0 = some (.file inode)) :
    disk.contentAt? location = some (disk.bytes inode) := by
  have content := row.contentAt?_slot 0
  rw [first] at content
  exact content

/-- A slot that leads to what another one did, on a disk where that file has the bytes it had. -/
theorem contentAt?_slot_congr {directory' : Path} {base' : String}
    (row' : Row disk' location directory' base') {m n : Nat}
    (same : disk'.slots location n = disk.slots location m)
    (bytes : ∀ inode, disk.slots location m = some (.file inode) →
      disk'.bytes inode = disk.bytes inode) :
    disk'.contentAt? (location.slot n) = disk.contentAt? (location.slot m) := by
  rw [row'.contentAt?_slot, row.contentAt?_slot, same]
  cases leads : disk.slots location m with
  | none => rfl
  | some node =>
    cases node with
    | file inode => exact congrArg some (bytes inode leads)
    | directory => rfl

/-- A change that keeps directories keeps the row in its place. -/
theorem keep (keeps : Keeps disk disk') : Row disk' location directory base :=
  ⟨keeps.walk row.walked, row.named, row.plain⟩

/-- What the paths of a row lead to settles its slots. -/
theorem slots_congr (row' : Row disk' location directory base) {n : Nat}
    (same : disk'.node? (directory ++ [Location.slotName base n]) =
      disk.node? (directory ++ [Location.slotName base n])) :
    disk'.slots location n = disk.slots location n := by
  apply Option.ext
  intro node
  rw [row'.slots_eq_some_iff, row.slots_eq_some_iff, same]

theorem slots_eq_none {n : Nat}
    (absent : disk.node? (directory ++ [Location.slotName base n]) = none) :
    disk.slots location n = none := by
  apply Option.eq_none_iff_forall_ne_some.mpr
  intro node leads
  rw [(row.slots_eq_some_iff.mp leads).2] at absent
  cases absent

/-! ### Operations on a row -/

omit row in
theorem beside (directory : Path) (base : String) {m n : Nat} (differ : m ≠ n) :
    ¬ directory ++ [Location.slotName base m] <+: directory ++ [Location.slotName base n] := by
  intro below
  have names : Location.slotName base m = Location.slotName base n := by
    simpa [List.prefix_append_right_inj] using below
  exact differ (Location.slotName_injective base names)

omit row in
theorem slot_ne_nil (directory : Path) (name : String) : directory ++ [name] ≠ [] := by simp

/-- Removing a file clears its slot. -/
theorem removeFile {m : Nat} (removed : disk.removeFile (location.slot m) = .ok disk') :
    Row disk' location directory base ∧ disk'.contents = disk.contents ∧
      disk'.slots location = Function.update (disk.slots location) m none := by
  have plain : (location.slot m).slash = false := by rw [Location.slash_slot, row.plain]
  unfold Disk.removeFile at removed
  cases resolved : disk.resolve (location.slot m) with
  | error fault =>
    rw [resolved] at removed
    cases removed
  | ok pair =>
    obtain ⟨path, node⟩ := pair
    -- The path of a slot is the directory of the row and the name of the slot.
    obtain ⟨fits, rfl, leads⟩ := row.resolve_slot.mp resolved
    rw [resolved] at removed
    rcases node with _ | inode | _
    · cases removed
    · obtain rfl : disk.dropTree _ = disk' := by
        simpa [bind, Except.bind, plain] using removed
      have named := slot_ne_nil directory (Location.slotName base m)
      have row' := row.keep (keeps_dropTree (by rw [leads]; nofun))
      refine ⟨row', rfl, ?_⟩
      funext n
      by_cases same : n = m
      · subst same
        rw [Function.update_self]
        refine row'.slots_eq_none ?_
        rw [node?_dropTree named, if_pos List.prefix_rfl]
      · rw [Function.update_of_ne same]
        refine row.slots_congr row' ?_
        rw [node?_dropTree named, if_neg (beside directory base (Ne.symm same))]
    · cases removed

/-- A move within a row that succeeds is one between names that the disk accepts. -/
theorem replace_of_rename {m n : Nat}
    (moved : disk.rename (location.slot m) (location.slot n) = .ok disk') :
    Fits (location.slot n) (Location.slotName base n) ∧
      disk.replace (directory ++ [Location.slotName base m])
        (directory ++ [Location.slotName base n]) = .ok disk' := by
  simp only [Disk.rename, Location.way_slot, row.walked, Location.name_slot row.named,
    Location.slash_slot, row.plain] at moved
  obtain ⟨_, source, moved⟩ := bind_eq_ok_iff.mp moved
  obtain ⟨_, target, moved⟩ := bind_eq_ok_iff.mp moved
  obtain ⟨_, ⟨⟩, moved⟩ := bind_eq_ok_iff.mp moved
  obtain ⟨_, ⟨⟩, moved⟩ := bind_eq_ok_iff.mp moved
  obtain ⟨node, -, moved⟩ := bind_eq_ok_iff.mp moved
  rcases node with _ | node
  · cases moved
  · obtain ⟨_, looked, moved⟩ := bind_eq_ok_iff.mp moved
    -- The name of the target is looked up for its faults only.
    cases new : disk.find directory (Location.slotName base n) with
    | error fault =>
      rw [new] at looked
      cases looked
    | ok covered =>
      have short := (find_eq_ok_iff.mp new).1
      exact ⟨⟨target, short⟩, by simpa using moved⟩

/-- Moving a file to a slot that is free clears the one slot and fills the other. -/
theorem rename {m n inode : Nat} (differ : m ≠ n)
    (held : disk.slots location m = some (.file inode)) (free : disk.slots location n = none)
    (moved : disk.rename (location.slot m) (location.slot n) = .ok disk') :
    Row disk' location directory base ∧ disk'.contents = disk.contents ∧
      disk'.slots location =
        Function.update (Function.update (disk.slots location) m none) n (some (.file inode)) := by
  obtain ⟨fits, replaced⟩ := row.replace_of_rename moved
  have leads := (row.slots_eq_some_iff.mp held).2
  -- The slot is free although its name fits, so nothing is replaced.
  have vacant : disk.node? (directory ++ [Location.slotName base n]) = none := by
    by_contra taken
    obtain ⟨node, there⟩ := Option.ne_none_iff_exists'.mp taken
    rw [row.slots_eq_some_iff.mpr ⟨fits, there⟩] at free
    cases free
  obtain rfl : disk.moveTree _ _ = disk' := by
    simpa only [replace, leads, vacant, Except.ok.injEq] using replaced
  have apart := beside directory base (Ne.symm differ)
  -- No directory is moved or covered, so the row keeps its place.
  have row' := row.keep (keeps_moveTree (by rw [leads]; nofun) (by rw [vacant]; nofun))
  refine ⟨row', rfl, ?_⟩
  funext k
  by_cases target : k = n
  · subst target
    rw [Function.update_self, row'.slots_eq_some_iff, node?_moveTree_target (slot_ne_nil _ _)
      (slot_ne_nil _ _) apart]
    exact ⟨fits, leads⟩
  · rw [Function.update_of_ne target]
    by_cases source : k = m
    · subst source
      rw [Function.update_self]
      exact row'.slots_eq_none (node?_moveTree_source (slot_ne_nil _ _) apart)
    · rw [Function.update_of_ne source]
      exact row.slots_congr row' (node?_moveTree_of_apart (slot_ne_nil _ _)
        (beside directory base (Ne.symm source)) (beside directory base (Ne.symm target)))

/-- A change of contents alone leaves the slots as they are. -/
theorem of_same_nodes (same : disk'.nodes = disk.nodes) :
    Row disk' location directory base ∧ disk'.slots location = disk.slots location := by
  have row' := row.keep (keeps_of_node? (node?_congr same))
  exact ⟨row', funext fun n => row.slots_congr row' (node?_congr same _)⟩

/-- Opening finds the file of the first slot or puts a new one there. -/
theorem openFile {inode : Nat} (opened : disk.openFile location = .ok (inode, disk')) :
    Row disk' location directory base ∧ disk'.slots location 0 = some (.file inode) ∧
      (disk.slots location 0 = some (.file inode) ∧ disk' = disk ∨
        disk.slots location 0 = none ∧ inode = disk.contents.size ∧
          disk'.contents = disk.contents.push .empty ∧
          ∀ n, n ≠ 0 → disk'.slots location n = disk.slots location n) := by
  unfold Disk.openFile at opened
  obtain ⟨there, reached, opened⟩ := bind_eq_ok_iff.mp opened
  obtain ⟨checked, walked⟩ := reach_eq_ok_iff.mp reached
  obtain rfl : directory = there := Except.ok.inj (row.walked.symm.trans walked)
  simp only [row.named, row.plain, Bool.false_eq_true, if_false] at opened
  obtain ⟨node, found, opened⟩ := bind_eq_ok_iff.mp opened
  obtain ⟨short, leads⟩ := find_eq_ok_iff.mp found
  have fits : Fits (location.slot 0) (Location.slotName base 0) := ⟨checked, short⟩
  rcases node with _ | other | _
  · -- There is none, so a new file is put in its place.
    obtain ⟨rfl, rfl⟩ : disk.contents.size = inode ∧
        (disk.addFile (directory ++ [base])).2 = disk' := Prod.ext_iff.mp (Except.ok.inj opened)
    have named := slot_ne_nil directory base
    have vacant : disk.node? (directory ++ [base]) ≠ some .directory := by
      rw [leads]
      nofun
    have row' := row.keep (keeps_addFile vacant)
    refine ⟨row', ?_, Or.inr ⟨row.slots_eq_none leads, rfl, rfl, ?_⟩⟩
    · refine row'.slots_eq_some_iff.mpr ⟨fits, ?_⟩
      rw [node?_addFile named]
      exact if_pos rfl
    · intro n later
      refine row.slots_congr row' ?_
      rw [node?_addFile named, if_neg]
      intro same
      exact later (Location.slotName_injective base
        (List.singleton_inj.mp (List.append_cancel_left same)))
  · obtain ⟨rfl, rfl⟩ : other = inode ∧ disk = disk' := by simpa using opened
    have held : disk.slots location 0 = some (.file other) :=
      row.slots_eq_some_iff.mpr ⟨fits, leads⟩
    exact ⟨row, held, Or.inl ⟨held, rfl⟩⟩
  · cases opened

/-! ### Operations that cannot fail -/

theorem exists_removeFile {m inode : Nat} (held : disk.slots location m = some (.file inode)) :
    ∃ disk', disk.removeFile (location.slot m) = .ok disk' := by
  obtain ⟨fits, leads⟩ := row.slots_eq_some_iff.mp held
  have plain : (location.slot m).slash = false := by rw [Location.slash_slot, row.plain]
  refine ⟨disk.dropTree (directory ++ [Location.slotName base m]), ?_⟩
  rw [Disk.removeFile, row.resolve_slot.mpr ⟨fits, rfl, leads⟩]
  simp [bind, Except.bind, plain]

theorem exists_rename {m n inode : Nat} (held : disk.slots location m = some (.file inode))
    (free : disk.slots location n = none)
    (accepted : Fits (location.slot n) (Location.slotName base n)) :
    ∃ disk', disk.rename (location.slot m) (location.slot n) = .ok disk' := by
  obtain ⟨fits, leads⟩ := row.slots_eq_some_iff.mp held
  have vacant : disk.node? (directory ++ [Location.slotName base n]) = none := by
    by_contra taken
    obtain ⟨node, there⟩ := Option.ne_none_iff_exists'.mp taken
    rw [row.slots_eq_some_iff.mpr ⟨accepted, there⟩] at free
    cases free
  have found := find_eq_ok_iff.mpr ⟨fits.2, leads⟩
  have target := find_eq_ok_iff.mpr ⟨accepted.2, vacant⟩
  refine ⟨disk.moveTree (directory ++ [Location.slotName base m])
    (directory ++ [Location.slotName base n]), ?_⟩
  simp [Disk.rename, Location.way_slot, row.walked, Location.name_slot row.named,
    Location.slash_slot, row.plain, fits.1, accepted.1, found, target, replace, leads, vacant,
    bind, Except.bind, discard, Functor.discard, Functor.mapConst, Except.map]

theorem exists_openFile (accepted : Fits location base)
    (file : disk.slots location 0 ≠ some .directory) :
    ∃ inode disk', disk.openFile location = .ok (inode, disk') := by
  have reached := reach_eq_ok_iff.mpr ⟨accepted.1, row.walked⟩
  have found : disk.find directory base = .ok (disk.node? (directory ++ [base])) :=
    find_eq_ok_iff.mpr ⟨accepted.2, rfl⟩
  unfold Disk.openFile
  rw [reached]
  simp only [row.named, row.plain, Bool.false_eq_true, if_false, bind, Except.bind, found]
  cases leads : disk.node? (directory ++ [base]) with
  | none => exact ⟨_, _, rfl⟩
  | some node =>
    cases node with
    | file inode => exact ⟨inode, disk, rfl⟩
    | directory =>
      have held : disk.slots location 0 = some .directory :=
        row.slots_eq_some_iff.mpr ⟨accepted, leads⟩
      exact absurd held file

end Row

end Disk

end Tapline
