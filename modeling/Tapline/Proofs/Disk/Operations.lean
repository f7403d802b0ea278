import Tapline.Proofs.Disk.Directories
/-!
# Disks that operations leave

A program changes a disk by operations, one after the other. What one of them leaves of a sound disk
is sound, so every disk that a run of operations leaves of the empty one is: each file that is
listed on it has its bytes.

## Main results

- `Disk.sound_performAll`: the disks of all runs from the empty disk are sound.
- `Disk.Reaches.sound`: a sound disk leads to sound disks only.

## Proof strategy

Each operation has its lemma (`Disk.Sound.openFile` and those beside it). `Disk.Sound.perform` goes
through the operations, and the run follows by an induction that lets the disk vary.
-/

namespace Tapline

/-- One operation on a disk. -/
inductive DiskOperation where
  | openFile (location : Location)
  /-- Bytes are added to a file that is open, wherever its name leads by now. -/
  | append (inode : Nat) (added : ByteArray)
  | truncate (location : Location)
  | removeFile (location : Location)
  | rename (source target : Location)
  | makeDirectories (location : Location)
  | removeAll (location : Location)
  | putFile (location : Location) (bytes : ByteArray)

namespace Disk

variable {disk disk' disk'' : Disk}

/-- What an operation makes of a disk; one that is refused makes nothing of it. -/
def settle (disk : Disk) : Except IOFault Disk → Disk
  | .ok after => after
  | .error _ => disk

/-- The disk after an operation. -/
def perform (disk : Disk) : DiskOperation → Disk
  | .openFile location => disk.settle ((disk.openFile location).map Prod.snd)
  | .append inode added => disk.append inode added
  | .truncate location => disk.settle (disk.truncate location)
  | .removeFile location => disk.settle (disk.removeFile location)
  | .rename source target => disk.settle (disk.rename source target)
  -- Directories are made as far as it goes, even if the last of them is refused.
  | .makeDirectories location => (disk.makeDirectories location).2
  | .removeAll location => (disk.removeAll location).2
  | .putFile location bytes => disk.putFile location bytes

def performAll (disk : Disk) (operations : List DiskOperation) : Disk :=
  operations.foldl perform disk

/-! ### Soundness -/

theorem Sound.settle {result : Except IOFault Disk} (sound : disk.Sound)
    (each : ∀ after, result = .ok after → after.Sound) : (disk.settle result).Sound := by
  cases result with
  | ok after => exact each after rfl
  | error fault => exact sound

/-- One operation leaves a sound disk sound. -/
theorem Sound.perform (sound : disk.Sound) (operation : DiskOperation) :
    (disk.perform operation).Sound := by
  cases operation with
  | openFile location =>
    refine sound.settle fun after made => ?_
    cases opened : disk.openFile location with
    | error fault =>
      rw [opened] at made
      cases made
    | ok answer =>
      obtain ⟨inode, there⟩ := answer
      obtain rfl : there = after := by simpa [opened, Except.map] using made
      exact (sound.openFile opened).1
  | append inode added => exact sound.append inode added
  | truncate location => exact sound.settle fun _ emptied => sound.truncate emptied
  | removeFile location => exact sound.settle fun _ removed => sound.removeFile removed
  | rename source target => exact sound.settle fun _ moved => sound.rename moved
  | makeDirectories location => exact sound.makeDirectories location
  | removeAll location => exact sound.removeAll location
  | putFile location bytes => exact sound.putFile location bytes

theorem Sound.performAll (sound : disk.Sound) (operations : List DiskOperation) :
    (disk.performAll operations).Sound := by
  induction operations generalizing disk with
  | nil => exact sound
  | cons operation rest ih => exact ih (sound.perform operation)

/-- **Every disk is sound** that a run of operations leaves of the empty disk. -/
theorem sound_performAll (operations : List DiskOperation) : (empty.performAll operations).Sound :=
  sound_empty.performAll operations

/-! ### Disks that are reached -/

/-- A disk is left of another one by some run of operations. -/
def Reaches (disk disk' : Disk) : Prop := ∃ operations, disk.performAll operations = disk'

namespace Reaches

@[refl] theorem refl (disk : Disk) : disk.Reaches disk := ⟨[], rfl⟩

@[trans] theorem trans (first : disk.Reaches disk') (second : disk'.Reaches disk'') :
    disk.Reaches disk'' := by
  obtain ⟨operations, rfl⟩ := first
  obtain ⟨later, rfl⟩ := second
  exact ⟨operations ++ later, List.foldl_append⟩

theorem perform (disk : Disk) (operation : DiskOperation) : disk.Reaches (disk.perform operation) :=
  ⟨[operation], rfl⟩

theorem sound (reaches : disk.Reaches disk') (sound : disk.Sound) : disk'.Sound := by
  obtain ⟨operations, rfl⟩ := reaches
  exact sound.performAll operations

theorem openFile {location : Location} {inode : Nat}
    (opened : disk.openFile location = .ok (inode, disk')) : disk.Reaches disk' := by
  simpa [Disk.perform, settle, opened, Except.map] using perform disk (.openFile location)

theorem truncate {location : Location} (emptied : disk.truncate location = .ok disk') :
    disk.Reaches disk' := by
  simpa [Disk.perform, settle, emptied] using perform disk (.truncate location)

theorem removeFile {location : Location} (removed : disk.removeFile location = .ok disk') :
    disk.Reaches disk' := by
  simpa [Disk.perform, settle, removed] using perform disk (.removeFile location)

theorem rename {source target : Location} (moved : disk.rename source target = .ok disk') :
    disk.Reaches disk' := by
  simpa [Disk.perform, settle, moved] using perform disk (.rename source target)

theorem append (disk : Disk) (inode : Nat) (added : ByteArray) :
    disk.Reaches (disk.append inode added) := perform disk (.append inode added)

theorem makeDirectories (disk : Disk) (location : Location) :
    disk.Reaches (disk.makeDirectories location).2 := perform disk (.makeDirectories location)

end Reaches

end Disk

end Tapline
