import Tapline.Proofs.Disk.OpenFile
import Tapline.Proofs.Rolling.Shift
/-!
# The places of a row

The steps of a location can be taken or not, but where they lead is settled by its text. So a file
and its numbered neighbours have places that are known in every state of the disk: other programs
may have removed some of them, or put directories there. An operation on the row changes what is at
the places that it names, and what is at all others stays.

## Main result

`shift_climbs`: making way for an empty file, however far it came, leaves each backup where it was
or one place further up, as long as that is a place for backups. It never puts two in one place.
-/

namespace Tapline

namespace Location

/-- Where a step leads if it can be taken. -/
def advance (directory : Path) : PathStep → Path
  | .out => directory.dropLast
  | .into name => directory ++ [name]

def folder (location : Location) : Path := location.way.foldl advance []

/-- The path of a slot. -/
def place (location : Location) (n : Nat) : Path :=
  location.folder ++ [slotName (location.name.getD "") n]

/-- A location that a file can have: it ends in a name, and in no slash. -/
structure NamesFile (location : Location) : Prop where
  named : location.name.isSome = true
  plain : location.slash = false

theorem place_ne_nil (location : Location) (n : Nat) : location.place n ≠ [] := by simp [place]

theorem place_apart (location : Location) {m n : Nat} (differ : m ≠ n) :
    ¬ location.place m <+: location.place n :=
  Disk.Row.beside location.folder (location.name.getD "") differ

theorem place_injective (location : Location) : Function.Injective location.place := by
  intro m n same
  by_contra differ
  exact location.place_apart differ (same ▸ List.prefix_rfl)

end Location

namespace Disk

variable {disk disk' : Disk} {location : Location}

theorem foldlM_follow_eq {way : List PathStep} {directory path : Path}
    (walked : way.foldlM disk.follow directory = .ok path) :
    path = way.foldl Location.advance directory := by
  induction way generalizing directory with
  | nil => exact (Except.ok.inj walked).symm
  | cons step way ih =>
    rw [List.foldlM_cons] at walked
    obtain ⟨next, followed, walked⟩ := bind_eq_ok_iff.mp walked
    have led : next = Location.advance directory step := by
      cases step with
      | out => exact (Except.ok.inj followed).symm
      | into name => exact (follow_into_eq_ok_iff.mp followed).2
    rw [List.foldl_cons, ← led]
    exact ih walked

theorem row_of_walk (names : location.NamesFile) {directory : Path}
    (walked : disk.walk location.way = .ok directory) :
    Row disk location location.folder (location.name.getD "") := by
  obtain ⟨base, named⟩ := Option.isSome_iff_exists.mp names.named
  refine ⟨?_, ?_, names.plain⟩
  · rw [walked]
    exact congrArg Except.ok (foldlM_follow_eq walked)
  · rw [named]
    rfl

/-- Either the directory of a row can be reached, or nothing can be found in it. -/
theorem row_or_lost (disk : Disk) (names : location.NamesFile) :
    Row disk location location.folder (location.name.getD "") ∨
      ∀ n, disk.slots location n = none := by
  cases walked : disk.walk location.way with
  | ok directory => exact .inl (row_of_walk names walked)
  | error fault =>
    right
    intro n
    have unreached : ∀ directory, disk.reach (location.slot n) ≠ .ok directory := by
      intro directory reached
      have walked' := (reach_eq_ok_iff.mp reached).2
      rw [Location.way_slot, walked] at walked'
      cases walked'
    unfold slots nodeAt? resolve
    cases reached : disk.reach (location.slot n) with
    | ok directory => exact absurd reached (unreached directory)
    | error fault => rfl

theorem slots_eq_none_of_place (names : location.NamesFile) {n : Nat}
    (absent : disk.node? (location.place n) = none) : disk.slots location n = none := by
  rcases disk.row_or_lost names with row | lost
  · exact row.slots_eq_none absent
  · exact lost n

theorem slots_eq_none_of_missing (names : location.NamesFile) {n : Nat}
    (missing : ¬ disk.holds (location.slot n) = true) : disk.slots location n = none := by
  rcases disk.row_or_lost names with row | lost
  · rw [row.holds_slot] at missing
    simpa using missing
  · exact lost n

/-! ### What an operation does at the places of a row -/

/-- A move within a row to a slot where nothing can be found. -/
theorem node?_place_of_rename (names : location.NamesFile) {m n : Nat} (differ : m ≠ n)
    (free : disk.slots location n = none)
    (moved : disk.rename (location.slot m) (location.slot n) = .ok disk') :
    disk'.contents = disk.contents ∧ disk.node? (location.place n) = none ∧
      ∀ k, disk'.node? (location.place k) =
        if k = n then disk.node? (location.place m)
        else if k = m then none
        else disk.node? (location.place k) := by
  have walked : ∃ directory, disk.walk location.way = .ok directory := by
    unfold Disk.rename at moved
    obtain ⟨-, -, moved⟩ := bind_eq_ok_iff.mp moved
    obtain ⟨-, -, moved⟩ := bind_eq_ok_iff.mp moved
    obtain ⟨here, walked, -⟩ := bind_eq_ok_iff.mp moved
    rw [Location.way_slot] at walked
    exact ⟨here, walked⟩
  obtain ⟨directory, walked⟩ := walked
  have row := row_of_walk names walked
  obtain ⟨fits, replaced⟩ := row.replace_of_rename moved
  -- The name of the target fits, so nothing was found there because nothing is there.
  have vacant : disk.node? (location.place n) = none := by
    by_contra taken
    obtain ⟨node, there⟩ := Option.ne_none_iff_exists'.mp taken
    rw [row.slots_eq_some_iff.mpr ⟨fits, there⟩] at free
    cases free
  have moving : disk.moveTree (location.place m) (location.place n) = disk' := by
    change disk.replace (location.place m) (location.place n) = .ok disk' at replaced
    unfold replace at replaced
    rw [vacant] at replaced
    cases source : disk.node? (location.place m) with
    | none =>
      rw [source] at replaced
      cases replaced
    | some node =>
      rw [source] at replaced
      cases node <;> exact Except.ok.inj replaced
  subst moving
  have apart := location.place_apart (Ne.symm differ)
  refine ⟨rfl, vacant, fun k => ?_⟩
  by_cases target : k = n
  · subst target
    rw [if_pos rfl]
    exact node?_moveTree_target (location.place_ne_nil m) (location.place_ne_nil k) apart
  · rw [if_neg target]
    by_cases source : k = m
    · subst source
      rw [if_pos rfl]
      exact node?_moveTree_source (location.place_ne_nil k) apart
    · rw [if_neg source]
      exact node?_moveTree_of_apart (location.place_ne_nil n)
        (location.place_apart (Ne.symm source)) (location.place_apart (Ne.symm target))

theorem node?_place_of_removeFile (names : location.NamesFile) {m : Nat}
    (removed : disk.removeFile (location.slot m) = .ok disk') :
    disk'.contents = disk.contents ∧ ∀ k, disk'.node? (location.place k) =
      if k = m then none else disk.node? (location.place k) := by
  have plain : (location.slot m).slash = false := by rw [Location.slash_slot, names.plain]
  obtain ⟨⟨path, node⟩, resolved, removed⟩ := bind_eq_ok_iff.mp removed
  have walked : ∃ directory, disk.walk location.way = .ok directory := by
    obtain ⟨directory, reached, -⟩ := bind_eq_ok_iff.mp resolved
    have walked := (reach_eq_ok_iff.mp reached).2
    rw [Location.way_slot] at walked
    exact ⟨directory, walked⟩
  obtain ⟨directory, walked⟩ := walked
  obtain ⟨-, rfl, -⟩ := (row_of_walk names walked).resolve_slot.mp resolved
  rcases node with _ | inode | _
  · cases removed
  · rw [plain] at removed
    obtain rfl : disk.dropTree (location.place m) = disk' := Except.ok.inj removed
    refine ⟨rfl, fun k => ?_⟩
    rw [node?_dropTree (location.place_ne_nil m)]
    by_cases same : k = m
    · subst same
      rw [if_pos rfl, if_pos List.prefix_rfl]
    · rw [if_neg same, if_neg (location.place_apart (Ne.symm same))]
  · cases removed

theorem openFile_cases {inode : Nat} (opened : disk.openFile location = .ok (inode, disk')) :
    location.NamesFile ∧ (disk' = disk ∨ disk' = (disk.addFile (location.place 0)).2) := by
  obtain ⟨directory, reached, opened⟩ := bind_eq_ok_iff.mp opened
  have walked := (reach_eq_ok_iff.mp reached).2
  cases named : location.name with
  | none => simp [named] at opened
  | some base =>
    cases plain : location.slash with
    | true => simp [named, plain] at opened
    | false =>
      have names : location.NamesFile := ⟨by rw [named]; rfl, plain⟩
      refine ⟨names, ?_⟩
      have place : location.place 0 = directory ++ [base] := by
        rw [Location.place, named, foldlM_follow_eq walked]
        rfl
      rw [place]
      simp only [named, plain, Bool.false_eq_true, if_false] at opened
      obtain ⟨node, -, opened⟩ := bind_eq_ok_iff.mp opened
      rcases node with _ | other | _
      · right
        exact (Prod.ext_iff.mp (Except.ok.inj opened)).2.symm
      · left
        exact (Prod.ext_iff.mp (Except.ok.inj opened)).2.symm
      · cases opened

theorem node?_place_of_openFile {inode : Nat}
    (opened : disk.openFile location = .ok (inode, disk')) {k : Nat} (behind : k ≠ 0) :
    disk'.node? (location.place k) = disk.node? (location.place k) := by
  rcases (openFile_cases opened).2 with rfl | rfl
  · rfl
  · rw [node?_addFile (location.place_ne_nil 0), if_neg]
    exact fun same => behind (location.place_injective same)

/-- A file that is made is empty, as is a file that nobody knows. -/
theorem bytes_of_openFile {inode : Nat} (opened : disk.openFile location = .ok (inode, disk'))
    (other : Nat) : disk'.bytes other = disk.bytes other := by
  rcases (openFile_cases opened).2 with rfl | rfl
  · rfl
  · have pushed : (disk.addFile (location.place 0)).2.contents = disk.contents.push .empty := rfl
    rw [bytes_of_push pushed]
    split
    next unknown => simp [bytes, unknown]
    next => rfl

end Disk

/-! ### Climbing -/

/-- A change of a row. Places above a number stay as they are. What is at a place below climbs by so
many places at most, as long as it could not climb beyond the number. -/
structure Climbs (location : Location) (most steps : Nat) (disk disk' : Disk) : Prop where
  beyond : ∀ n, most < n → disk'.node? (location.place n) = disk.node? (location.place n)
  within : ∀ n node, 0 < n → n + steps ≤ most → disk.node? (location.place n) = some node →
    ∃ m, n ≤ m ∧ m ≤ n + steps ∧ disk'.node? (location.place m) = some node

namespace Climbs

variable {location : Location} {most steps more : Nat} {disk disk' disk'' : Disk}

/-- A change of the first place alone. -/
theorem of_same
    (same : ∀ n, n ≠ 0 → disk'.node? (location.place n) = disk.node? (location.place n)) :
    Climbs location most 0 disk disk' where
  beyond n above := same n (by omega)
  within n node behind _ there :=
    ⟨n, Nat.le_refl n, Nat.le_refl n, by rw [same n (by omega), there]⟩

theorem of_same_nodes (same : disk'.nodes = disk.nodes) : Climbs location most 0 disk disk' :=
  of_same fun n _ => Disk.node?_congr same (location.place n)

theorem mono (climbs : Climbs location most steps disk disk') (fewer : steps ≤ more) :
    Climbs location most more disk disk' where
  beyond := climbs.beyond
  within n node behind bound there := by
    obtain ⟨m, low, high, found⟩ := climbs.within n node behind (by omega) there
    exact ⟨m, low, by omega, found⟩

theorem trans (first : Climbs location most steps disk disk')
    (second : Climbs location most more disk' disk'') :
    Climbs location most (steps + more) disk disk'' where
  beyond n above := (second.beyond n above).trans (first.beyond n above)
  within n node behind bound there := by
    obtain ⟨m, low, high, found⟩ := first.within n node behind (by omega) there
    obtain ⟨l, low', high', found'⟩ := second.within m node (by omega) (by omega) found
    exact ⟨l, by omega, by omega, found'⟩

end Climbs

namespace RollingFile

open Disk

variable {file : RollingFile} {disk disk' : Disk}

/-- Backups up to a number, given that nothing can be found in the slot above. The induction is on
that number; a backup that stays where it is stops those below it as well. -/
theorem shiftBackups_places (names : file.location.NamesFile) {n : Nat}
    (free : disk.slots file.location (n + 1) = none) {result : Except IOFault Unit}
    (shifted : file.shiftBackups n disk = (result, disk')) :
    disk'.contents = disk.contents ∧
      (result = .ok () → disk'.slots file.location 1 = none) ∧
      (∀ k, k = 0 ∨ n + 1 < k →
        disk'.node? (file.location.place k) = disk.node? (file.location.place k)) ∧
      ∀ k node, 0 < k → disk.node? (file.location.place k) = some node →
        disk'.node? (file.location.place k) = some node ∨
          k ≤ n ∧ disk'.node? (file.location.place (k + 1)) = some node := by
  induction n generalizing disk with
  | zero =>
    obtain rfl : disk = disk' := (Prod.ext_iff.mp shifted).2
    exact ⟨rfl, fun _ => free, fun _ _ => rfl, fun _ _ _ there => .inl there⟩
  | succ n ih =>
    rw [shiftBackups, backup_eq_slot (by omega), backup_eq_slot (by omega)] at shifted
    split at shifted
    next held =>
      cases moved : disk.rename (file.location.slot (n + 1)) (file.location.slot (n + 2)) with
      | error fault =>
        rw [moved] at shifted
        obtain ⟨rfl, rfl⟩ := Prod.ext_iff.mp shifted
        refine ⟨rfl, ?_, fun _ _ => rfl, fun _ _ _ there => .inl there⟩
        intro succeeded
        cases succeeded
      | ok next =>
        rw [moved] at shifted
        obtain ⟨same, vacant, places⟩ := node?_place_of_rename names (by omega) free moved
        -- The backup has left its slot, which is free for the one below.
        have left : next.slots file.location (n + 1) = none := by
          apply slots_eq_none_of_place names
          rw [places, if_neg (by omega), if_pos rfl]
        obtain ⟨same', first, others, each⟩ := ih left shifted
        refine ⟨same'.trans same, first, fun k outside => ?_, fun k node behind there => ?_⟩
        · rw [others k (by omega), places, if_neg (by omega), if_neg (by omega)]
        · by_cases own : k = n + 1
          · -- It lies above those that are still to move.
            subst own
            right
            have arrived : next.node? (file.location.place (n + 2)) = some node := by
              rw [places, if_pos rfl, there]
            rw [others (n + 2) (by omega)]
            exact ⟨Nat.le_refl _, arrived⟩
          · have target : k ≠ n + 2 := by
              rintro rfl
              rw [vacant] at there
              cases there
            have still : next.node? (file.location.place k) = some node := by
              rw [places, if_neg target, if_neg own, there]
            rcases each k node behind still with stays | ⟨below, moves⟩
            · exact .inl stays
            · exact .inr ⟨by omega, moves⟩
    next missing =>
      obtain ⟨same, first, others, each⟩ :=
        ih (slots_eq_none_of_missing names missing) shifted
      refine ⟨same, first, fun k outside => others k (by omega), fun k node behind there => ?_⟩
      rcases each k node behind there with stays | ⟨below, moves⟩
      · exact .inl stays
      · exact .inr ⟨by omega, moves⟩

/-- Removing the oldest backup, where there may be backups at all. -/
theorem dropOldest_places (names : file.location.NamesFile) (keeps : 0 < file.limits.maxFiles)
    (dropped : file.dropOldest disk = .ok disk') :
    disk'.contents = disk.contents ∧ disk'.slots file.location file.limits.maxFiles = none ∧
      ∀ k, k ≠ file.limits.maxFiles →
        disk'.node? (file.location.place k) = disk.node? (file.location.place k) := by
  rw [dropOldest, backup_eq_slot keeps] at dropped
  split at dropped
  · obtain ⟨same, places⟩ := node?_place_of_removeFile names dropped
    refine ⟨same, ?_, fun k other => ?_⟩
    · apply slots_eq_none_of_place names
      rw [places, if_pos rfl]
    · rw [places, if_neg other]
  next missing =>
    obtain rfl : disk = disk' := Except.ok.inj dropped
    exact ⟨rfl, slots_eq_none_of_missing names missing, fun _ _ => rfl⟩

/-- Emptying the active file. -/
theorem truncate_climbs {location : Location} {most : Nat}
    (emptied : disk.truncate location = .ok disk') : Climbs location most 0 disk disk' := by
  obtain ⟨⟨inode, opened⟩, found, made⟩ := bind_eq_ok_iff.mp emptied
  obtain rfl : opened.overwrite inode .empty = disk' := Except.ok.inj made
  apply Climbs.of_same
  intro n behind
  rw [← node?_place_of_openFile found behind]
  exact node?_congr rfl _

/-- The active file goes where nothing is, so it covers no backup. -/
theorem rename_climbs (names : file.location.NamesFile) (keeps : 0 < file.limits.maxFiles)
    (free : disk.slots file.location 1 = none)
    (renamed : disk.rename file.location (file.backup 1) = .ok disk') :
    disk'.contents = disk.contents ∧ Climbs file.location file.limits.maxFiles 0 disk disk' := by
  obtain ⟨same, vacant, places⟩ :=
    node?_place_of_rename (m := 0) (n := 1) names Nat.zero_ne_one free renamed
  refine ⟨same, ?_⟩
  constructor
  · intro n above
    rw [places, if_neg (by omega), if_neg (by omega)]
  · intro n node behind _ there
    have target : n ≠ 1 := by
      rintro rfl
      rw [vacant] at there
      cases there
    have stays : disk'.node? (file.location.place n) = some node := by
      rw [places, if_neg target, if_neg (by omega), there]
    exact ⟨n, Nat.le_refl n, Nat.le_refl n, stays⟩

/-- The slot of the oldest backup is free, so the others climb into it one after the other. -/
theorem shiftBackups_climbs (names : file.location.NamesFile) (keeps : 0 < file.limits.maxFiles)
    {start : Disk} (dropped : file.dropOldest start = .ok disk) {result : Except IOFault Unit}
    (shifted : file.shiftBackups (file.limits.maxFiles - 1) disk = (result, disk')) :
    disk'.contents = start.contents ∧ (result = .ok () → disk'.slots file.location 1 = none) ∧
      Climbs file.location file.limits.maxFiles 1 start disk' := by
  have top : file.limits.maxFiles - 1 + 1 = file.limits.maxFiles := by omega
  obtain ⟨same, free, places⟩ := dropOldest_places names keeps dropped
  rw [← top] at free
  obtain ⟨same', first, others, each⟩ := shiftBackups_places names free shifted
  refine ⟨same'.trans same, first, ?_⟩
  constructor
  · intro n above
    rw [others n (by omega), places n (by omega)]
  · intro n node behind below there
    rw [← places n (by omega)] at there
    rcases each n node behind there with stays | ⟨-, moves⟩
    · exact ⟨n, Nat.le_refl n, Nat.le_succ n, stays⟩
    · exact ⟨n + 1, Nat.le_succ n, Nat.le_refl _, moves⟩

/-- **Making way moves backups by one place at most.** It may succeed or fail at any of its steps.
Where backups may be kept it leaves the bytes of every file alone. -/
theorem shift_climbs (names : file.location.NamesFile) (disk : Disk) :
    Climbs file.location file.limits.maxFiles 1 disk (file.shift disk).2 ∧
      (0 < file.limits.maxFiles → (file.shift disk).2.contents = disk.contents) := by
  have idle : Climbs file.location file.limits.maxFiles 1 disk disk :=
    (Climbs.of_same_nodes rfl).mono (Nat.zero_le 1)
  unfold shift
  split
  next zero =>
    refine ⟨?_, fun keeps => absurd zero (by omega)⟩
    cases emptied : disk.truncate file.location with
    | error fault => exact idle
    | ok after => exact (truncate_climbs emptied).mono (Nat.zero_le 1)
  next positive =>
    have keeps : 0 < file.limits.maxFiles := by omega
    cases dropped : file.dropOldest disk with
    | error fault => exact ⟨idle, fun _ => rfl⟩
    | ok first =>
      cases shifted : file.shiftBackups (file.limits.maxFiles - 1) first with
      | mk result second =>
        obtain ⟨same, free, climbs⟩ := shiftBackups_climbs names keeps dropped shifted
        cases result with
        | error fault =>
          simp only [shifted]
          exact ⟨climbs, fun _ => same⟩
        | ok =>
          simp only [shifted]
          cases renamed : second.rename file.location (file.backup 1) with
          | error fault => exact ⟨climbs, fun _ => same⟩
          | ok third =>
            obtain ⟨same', climbs'⟩ := rename_climbs names keeps (free rfl) renamed
            exact ⟨climbs.trans climbs', fun _ => same'.trans same⟩

end RollingFile

end Tapline
