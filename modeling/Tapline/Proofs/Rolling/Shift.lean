import Tapline.Proofs.Disk.Slots
import Tapline.RollingFile
/-!
# Making way for an empty file

A rotation moves every file of the row up by one slot and lets go of the one that had the last
slot allowed. It goes from the oldest file down, so each file moves to a slot that is free, and
what a file holds is not touched. Where no older file may be kept, the file itself is emptied.

## Main result

`shift_slots`: what the slots hold after a rotation that succeeded. `exists_shift`: where the names
are accepted, none fails.
-/

namespace Tapline.RollingFile

open Disk

variable {file : RollingFile} {disk disk' : Disk} {directory : Path} {base : String}

theorem backup_eq_slot {n : Nat} (positive : 0 < n) : file.backup n = file.location.slot n := by
  cases n with
  | zero => exact absurd positive (Nat.lt_irrefl 0)
  | succ n => rfl

/-- Only files stand in the slots behind the first one. -/
def OnlyFiles (file : RollingFile) (disk : Disk) : Prop :=
  ∀ n, disk.slots file.location n ≠ some .directory

/-- What stands in the slots afterwards stood in one of them before. -/
theorem OnlyFiles.of_slots (files : file.OnlyFiles disk)
    (former : ∀ n, disk'.slots file.location n = none ∨
      ∃ m, disk'.slots file.location n = disk.slots file.location m) : file.OnlyFiles disk' := by
  intro n
  rcases former n with free | ⟨m, same⟩
  · rw [free]
    nofun
  · rw [same]
    exact files m

/-- A move of a file puts no directory into the row. -/
theorem OnlyFiles.of_rename (files : file.OnlyFiles disk) {m n inode : Nat}
    (held : disk.slots file.location m = some (.file inode))
    (slots : disk'.slots file.location = Function.update
      (Function.update (disk.slots file.location) m none) n (some (.file inode))) :
    file.OnlyFiles disk' := by
  refine files.of_slots fun k => ?_
  rw [slots]
  by_cases target : k = n
  · exact Or.inr ⟨m, by rw [target, Function.update_self, held]⟩
  · rw [Function.update_of_ne target]
    by_cases source : k = m
    · exact Or.inl (by rw [source, Function.update_self])
    · exact Or.inr ⟨k, by rw [Function.update_of_ne source]⟩

theorem exists_file (files : file.OnlyFiles disk) {n : Nat}
    (held : disk.holds (file.location.slot n) = true)
    (row : Row disk file.location directory base) :
    ∃ inode, disk.slots file.location n = some (.file inode) := by
  rw [row.holds_slot] at held
  obtain ⟨node, leads⟩ := Option.isSome_iff_exists.mp held
  cases node with
  | file inode => exact ⟨inode, leads⟩
  | directory => exact absurd leads (files n)

theorem slots_eq_none_of_not_holds {n : Nat} (row : Row disk file.location directory base)
    (missing : ¬ disk.holds (file.location.slot n) = true) :
    disk.slots file.location n = none := by
  rw [row.holds_slot] at missing
  simpa using missing

/-- Backups up to a number move up by one, given that the slot above them is free. The induction is
on that number: the highest backup moves first and leaves a free slot to the next. -/
theorem shiftBackups_slots {n : Nat} (row : Row disk file.location directory base)
    (files : file.OnlyFiles disk) (free : disk.slots file.location (n + 1) = none)
    (shifted : file.shiftBackups n disk = (.ok (), disk')) :
    Row disk' file.location directory base ∧ disk'.contents = disk.contents ∧
      ∀ k, disk'.slots file.location k =
        if k = 1 then none
        else if 2 ≤ k ∧ k ≤ n + 1 then disk.slots file.location (k - 1)
        else disk.slots file.location k := by
  induction n generalizing disk with
  | zero =>
    obtain rfl : disk = disk' := (Prod.ext_iff.mp shifted).2
    refine ⟨row, rfl, fun k => ?_⟩
    by_cases first : k = 1
    · rw [if_pos first, first, free]
    · rw [if_neg first, if_neg (by omega)]
  | succ n ih =>
    rw [shiftBackups, backup_eq_slot (by omega), backup_eq_slot (by omega)] at shifted
    split at shifted
    next held =>
      obtain ⟨inode, leads⟩ := exists_file files held row
      cases moved : disk.rename (file.location.slot (n + 1)) (file.location.slot (n + 2)) with
      | error fault =>
        rw [moved] at shifted
        cases shifted
      | ok next =>
        rw [moved] at shifted
        -- The slot above is free, so nothing is replaced; this slot is free for the next.
        obtain ⟨row', same, slots⟩ := row.rename (by omega) leads free moved
        have files' := files.of_rename leads slots
        have free' : next.slots file.location (n + 1) = none := by
          rw [slots, Function.update_of_ne (by omega), Function.update_self]
        obtain ⟨row'', same', slots'⟩ := ih row' files' free' shifted
        refine ⟨row'', same'.trans same, fun k => ?_⟩
        rw [slots', slots]
        by_cases first : k = 1
        · rw [if_pos first, if_pos first]
        · rw [if_neg first, if_neg first]
          by_cases low : 2 ≤ k ∧ k ≤ n + 1
          · rw [if_pos low, if_pos (by omega), Function.update_of_ne (by omega),
              Function.update_of_ne (by omega)]
          · rw [if_neg low]
            by_cases top : k = n + 2
            · rw [if_pos (by omega), top, Function.update_self, ← leads]
              rfl
            · rw [if_neg (by omega), Function.update_of_ne top, Function.update_of_ne (by omega)]
    next missing =>
      -- No backup has this number, and the gap moves up instead.
      have free' := slots_eq_none_of_not_holds row missing
      obtain ⟨row', same, slots⟩ := ih row files free' shifted
      refine ⟨row', same, fun k => ?_⟩
      rw [slots]
      by_cases top : k = n + 2
      · -- Nothing stood in the slot below, and nothing stands in this one.
        rw [if_neg (by omega), if_neg (by omega), if_neg (by omega), if_pos (by omega), top, free]
        exact free'.symm
      · by_cases first : k = 1
        · rw [if_pos first, if_pos first]
        · rw [if_neg first, if_neg first]
          by_cases low : 2 ≤ k ∧ k ≤ n + 1
          · rw [if_pos low, if_pos (by omega)]
          · rw [if_neg low, if_neg (by omega)]

theorem dropOldest_slots (positive : 0 < file.limits.maxFiles)
    (row : Row disk file.location directory base)
    (dropped : file.dropOldest disk = .ok disk') :
    Row disk' file.location directory base ∧ disk'.contents = disk.contents ∧
      ∀ k, disk'.slots file.location k =
        if k = file.limits.maxFiles then none else disk.slots file.location k := by
  rw [dropOldest, backup_eq_slot positive] at dropped
  split at dropped
  · obtain ⟨row', same, slots⟩ := row.removeFile dropped
    refine ⟨row', same, fun k => ?_⟩
    rw [slots]
    by_cases last : k = file.limits.maxFiles
    · rw [if_pos last, last, Function.update_self]
    · rw [if_neg last, Function.update_of_ne last]
  next missing =>
    obtain rfl : disk = disk' := Except.ok.inj dropped
    refine ⟨row, rfl, fun k => ?_⟩
    by_cases last : k = file.limits.maxFiles
    · rw [if_pos last, last, slots_eq_none_of_not_holds row missing]
    · rw [if_neg last]

theorem OnlyFiles.of_dropOldest (files : file.OnlyFiles disk)
    (slots : ∀ k, disk'.slots file.location k =
      if k = file.limits.maxFiles then none else disk.slots file.location k) :
    file.OnlyFiles disk' := by
  refine files.of_slots fun k => ?_
  rw [slots]
  split
  · exact Or.inl rfl
  · exact Or.inr ⟨k, rfl⟩

/-- **A rotation moves the row up by one.** The first slot is free afterwards, and what had the last
slot allowed is gone. -/
theorem shift_slots (positive : 0 < file.limits.maxFiles)
    (row : Row disk file.location directory base) (files : file.OnlyFiles disk) {inode : Nat}
    (active : disk.slots file.location 0 = some (.file inode))
    (shifted : file.shift disk = (.ok (), disk')) :
    Row disk' file.location directory base ∧ disk'.contents = disk.contents ∧
      ∀ k, disk'.slots file.location k =
        if k = 0 then none
        else if k ≤ file.limits.maxFiles then disk.slots file.location (k - 1)
        else disk.slots file.location k := by
  rw [shift, if_neg (by omega)] at shifted
  cases dropped : file.dropOldest disk with
  | error fault =>
    rw [dropped] at shifted
    cases shifted
  | ok first =>
    rw [dropped] at shifted
    obtain ⟨row₁, same₁, slots₁⟩ := dropOldest_slots positive row dropped
    -- The backups are moved on the row without its oldest file.
    have files₁ := files.of_dropOldest slots₁
    have free₁ : first.slots file.location (file.limits.maxFiles - 1 + 1) = none := by
      rw [slots₁, if_pos (by omega)]
    cases moved : file.shiftBackups (file.limits.maxFiles - 1) first with
    | mk result second =>
      cases result with
      | error fault =>
        simp only [moved] at shifted
        cases shifted
      | ok =>
        simp only [moved] at shifted
        obtain ⟨row₂, same₂, slots₂⟩ := shiftBackups_slots row₁ files₁ free₁ moved
        cases renamed : second.rename file.location (file.backup 1) with
        | error fault =>
          rw [renamed] at shifted
          cases shifted
        | ok third =>
          rw [renamed] at shifted
          obtain rfl : third = disk' := (Prod.ext_iff.mp shifted).2
          -- The active file has not been touched yet, and the slot above is free.
          have active₂ : second.slots file.location 0 = some (.file inode) := by
            rw [slots₂, if_neg (by omega), if_neg (by omega), slots₁, if_neg (by omega), active]
          have free₂ : second.slots file.location 1 = none := by
            rw [slots₂, if_pos rfl]
          obtain ⟨row₃, same₃, slots₃⟩ := row₂.rename (by omega) active₂ free₂ renamed
          refine ⟨row₃, same₃.trans (same₂.trans same₁), fun k => ?_⟩
          rw [slots₃]
          by_cases first : k = 1
          · rw [if_neg (by omega), if_pos (by omega), first, Function.update_self, ← active]
          · rw [Function.update_of_ne first]
            by_cases zero : k = 0
            · rw [if_pos zero, zero, Function.update_self]
            · rw [if_neg zero, Function.update_of_ne zero, slots₂, if_neg first]
              by_cases low : k ≤ file.limits.maxFiles
              · rw [if_pos low, if_pos (by omega), slots₁, if_neg (by omega)]
              · rw [if_neg low, if_neg (by omega), slots₁, if_neg (by omega)]

/-! ### Rotations that cannot fail -/

/-- The names of the file and of every backup that may be kept are accepted. -/
def NamesFit (file : RollingFile) : Prop :=
  ∀ n, n ≤ file.limits.maxFiles → ∀ name, (file.location.slot n).name = some name →
    Fits (file.location.slot n) name

theorem NamesFit.slot (accepted : file.NamesFit) (row : Row disk file.location directory base)
    {n : Nat} (allowed : n ≤ file.limits.maxFiles) :
    Fits (file.location.slot n) (Location.slotName base n) :=
  accepted n allowed _ (Location.name_slot row.named n)

/-- The induction is that of `shiftBackups_slots`: each backup finds the slot above it free. -/
theorem exists_shiftBackups {n : Nat} (row : Row disk file.location directory base)
    (files : file.OnlyFiles disk) (accepted : file.NamesFit) (allowed : n < file.limits.maxFiles)
    (free : disk.slots file.location (n + 1) = none) :
    ∃ disk', file.shiftBackups n disk = (.ok (), disk') := by
  induction n generalizing disk with
  | zero => exact ⟨disk, rfl⟩
  | succ n ih =>
    rw [shiftBackups, backup_eq_slot (by omega), backup_eq_slot (by omega)]
    split
    next held =>
      obtain ⟨inode, leads⟩ := exists_file files held row
      obtain ⟨next, moved⟩ := row.exists_rename leads free (accepted.slot row allowed)
      obtain ⟨row', -, slots⟩ := row.rename (by omega) leads free moved
      have free' : next.slots file.location (n + 1) = none := by
        rw [slots, Function.update_of_ne (by omega), Function.update_self]
      rw [moved]
      exact ih row' (files.of_rename leads slots) (by omega) free'
    next missing =>
      exact ih row files (by omega) (slots_eq_none_of_not_holds row missing)

theorem exists_dropOldest (positive : 0 < file.limits.maxFiles)
    (row : Row disk file.location directory base) (files : file.OnlyFiles disk) :
    ∃ disk', file.dropOldest disk = .ok disk' := by
  rw [dropOldest, backup_eq_slot positive]
  split
  next held =>
    obtain ⟨inode, leads⟩ := exists_file files held row
    exact row.exists_removeFile leads
  next => exact ⟨disk, rfl⟩

/-- A row of files whose names are accepted can be moved, or its first file emptied. -/
theorem exists_shift (row : Row disk file.location directory base) (files : file.OnlyFiles disk)
    (accepted : file.NamesFit) {inode : Nat}
    (active : disk.slots file.location 0 = some (.file inode)) :
    ∃ disk', file.shift disk = (.ok (), disk') := by
  unfold shift
  by_cases bare : file.limits.maxFiles = 0
  · rw [if_pos bare]
    obtain ⟨inode', opened, found⟩ :=
      row.exists_openFile (accepted.slot row (Nat.zero_le _)) (files 0)
    refine ⟨opened.overwrite inode' .empty, ?_⟩
    simp [truncate, found, bind, Except.bind, pure, Except.pure]
  · rw [if_neg bare]
    have positive : 0 < file.limits.maxFiles := Nat.pos_of_ne_zero bare
    obtain ⟨first, dropped⟩ := exists_dropOldest positive row files
    obtain ⟨row₁, -, slots₁⟩ := dropOldest_slots positive row dropped
    have files₁ := files.of_dropOldest slots₁
    have free₁ : first.slots file.location (file.limits.maxFiles - 1 + 1) = none := by
      rw [slots₁, if_pos (by omega)]
    obtain ⟨second, moved⟩ := exists_shiftBackups row₁ files₁ accepted (by omega) free₁
    obtain ⟨row₂, -, slots₂⟩ := shiftBackups_slots row₁ files₁ free₁ moved
    have active₂ : second.slots file.location 0 = some (.file inode) := by
      rw [slots₂, if_neg (by omega), if_neg (by omega), slots₁, if_neg (by omega), active]
    have free₂ : second.slots file.location 1 = none := by
      rw [slots₂, if_pos rfl]
    obtain ⟨third, renamed⟩ :=
      row₂.exists_rename active₂ free₂ (accepted.slot row₂ positive)
    refine ⟨third, ?_⟩
    have last : second.rename file.location (file.backup 1) = .ok third := renamed
    simp only [dropped, moved, last]

end Tapline.RollingFile
