import Mathlib
import Tapline.Proofs.Rolling.Retention
/-!
# One rotation

A rotation moves every file of a row up by one, whatever gaps the row has, and no file but the
oldest that may be kept is lost. What was still in memory is in the first backup afterwards. Where
no backup may be kept, the active file is emptied and everything else stays.

## Main result

`rotation_moves_row`.

## Proof strategy

`Aligned` is what the argument needs of a rolling file and its disk. Opening establishes it, and
every call that succeeds preserves it. `Rotated` says what a rotation does to the slots and to the
bytes of the files; what stands at each location afterwards is read off it. That no move meets a
file in its place is the content of `shift_slots`.
-/

namespace Tapline

namespace RollingFile

open Disk

/-- A file that is open, in the first slot of a row of files. No other slot leads to it. -/
structure Aligned (file : RollingFile) (active : OpenFile) (disk : Disk) : Prop where
  opened : file.active = some active
  buffer : file.limits.bufferSize ≤ greatestBuffer
  kept : active.kept.size ≤ active.capacity
  row : ∃ directory base, Row disk file.location directory base
  first : disk.slots file.location 0 = some (.file active.inode)
  alone : ∀ n, 0 < n → disk.slots file.location n ≠ some (.file active.inode)
  files : file.OnlyFiles disk
  known : ∀ n inode, disk.slots file.location n = some (.file inode) → inode < disk.contents.size

/-- Making way and opening, as a change of the row and of what its files hold. -/
structure Rotated (file : RollingFile) (active : OpenFile) (disk disk' : Disk) (inode : Nat) :
    Prop where
  row : ∃ directory base, Row disk' file.location directory base
  first : disk'.slots file.location 0 = some (.file inode)
  later : ∀ n, 0 < n → disk'.slots file.location n =
    if n ≤ file.limits.maxFiles then disk.slots file.location (n - 1)
    else disk.slots file.location n
  /-- The active file is a new one, or the same where no backup may be kept. -/
  fresh : inode = disk.contents.size ∨ file.limits.maxFiles = 0 ∧ inode = active.inode
  listed : inode < disk'.contents.size
  grown : disk.contents.size ≤ disk'.contents.size
  emptied : disk'.bytes inode = .empty
  others : ∀ other, other ≠ inode → disk'.bytes other = disk.bytes other

section Steps

variable {file : RollingFile} {active : OpenFile} {disk disk' : Disk} {inode : Nat}

theorem Aligned.listed (aligned : file.Aligned active disk) : active.inode < disk.contents.size :=
  aligned.known 0 _ aligned.first

/-- A change of the bytes of the open file alone. -/
theorem Aligned.of_changesOnly (aligned : file.Aligned active disk) (active' : OpenFile)
    (changes : disk.ChangesOnly disk' active.inode) (same : active'.inode = active.inode)
    (kept : active'.kept.size ≤ active'.capacity) (written : Nat) :
    Aligned { file with active := some active', written } active' disk' := by
  obtain ⟨directory, base, row⟩ := aligned.row
  obtain ⟨row', slots⟩ := row.of_same_nodes changes.nodes
  have slots : disk'.slots file.location = disk.slots file.location := slots
  refine ⟨rfl, aligned.buffer, kept, ⟨directory, base, row'⟩, ?_, ?_, ?_, ?_⟩
  · change disk'.slots file.location 0 = _
    rw [slots, same, aligned.first]
  · intro n behind
    change disk'.slots file.location n ≠ _
    rw [slots, same]
    exact aligned.alone n behind
  · intro n
    change disk'.slots file.location n ≠ _
    rw [slots]
    exact aligned.files n
  · intro n other leads
    change disk'.slots file.location n = _ at leads
    rw [slots] at leads
    rw [changes.size]
    exact aligned.known n other leads

/-- Writing adds to what the active file holds together with what is kept in memory. -/
theorem Aligned.write (aligned : file.Aligned active disk) (record : ByteArray) :
    ∃ active', (file.write disk record).result = .ok record.size ∧
      (file.write disk record).file.Aligned active' (file.write disk record).disk ∧
      active'.whole (file.write disk record).disk = active.whole disk ++ record := by
  have ran : file.write disk record =
      ⟨.ok record.size, { file with
        active := some (active.write disk record).1
        written := file.written + record.size }, (active.write disk record).2, []⟩ := by
    simp [RollingFile.write, ensureOpen, aligned.opened]
  rw [ran]
  refine ⟨(active.write disk record).1, rfl, ?_,
    OpenFile.whole_write aligned.listed aligned.kept record⟩
  exact aligned.of_changesOnly _ (active.write_changesOnly disk record)
    (active.inode_write disk record) (OpenFile.kept_write_le disk record aligned.kept) _

/-- What was kept in memory is in the file once it is sent. -/
theorem Aligned.sent (aligned : file.Aligned active disk) :
    Aligned { file with active := some (active.flush disk).1 } (active.flush disk).1
      (active.flush disk).2 :=
  aligned.of_changesOnly (active.flush disk).1 (active.flush_changesOnly disk) rfl (Nat.zero_le _)
    file.written

theorem Aligned.flush (aligned : file.Aligned active disk) :
    ∃ active', (file.flush disk).file.Aligned active' (file.flush disk).disk := by
  have ran : file.flush disk =
      ⟨.ok (), { file with active := some (active.flush disk).1 }, (active.flush disk).2, []⟩ := by
    simp [RollingFile.flush, aligned.opened]
  rw [ran]
  exact ⟨_, aligned.sent⟩

/-- Sending what is kept changes nothing behind the first slot. -/
theorem Aligned.behind_sent (aligned : file.Aligned active disk) {n : Nat} (behind : 0 < n) :
    (active.flush disk).2.holds (file.location.slot n) = disk.holds (file.location.slot n) ∧
    (active.flush disk).2.contentAt? (file.location.slot n) =
      disk.contentAt? (file.location.slot n) := by
  obtain ⟨directory, base, row⟩ := aligned.row
  have changes := active.flush_changesOnly disk
  obtain ⟨row', slots⟩ := row.of_same_nodes changes.nodes
  constructor
  · rw [row'.holds_slot, row.holds_slot, slots]
  · apply row.contentAt?_slot_congr row' (by rw [slots])
    -- No slot behind the first one leads to the file that is sent.
    intro other leads
    have apart : other ≠ active.inode := fun same => aligned.alone n behind (same ▸ leads)
    exact changes.others other apart

theorem Aligned.first_sent (aligned : file.Aligned active disk) :
    (active.flush disk).2.contentAt? file.location = some (active.whole disk) := by
  obtain ⟨directory, base, row⟩ := aligned.sent.row
  have whole : (active.flush disk).2.bytes active.inode = active.whole disk :=
    OpenFile.bytes_append_self aligned.listed active.kept
  rw [← whole]
  exact row.contentAt?_of_first aligned.sent.first

/-- Opening the file of the first slot finds the one that is there. -/
theorem Aligned.openFile_eq (aligned : file.Aligned active disk)
    (opened : disk.openFile file.location = .ok (inode, disk')) :
    inode = active.inode ∧ disk' = disk := by
  obtain ⟨directory, base, row⟩ := aligned.row
  obtain ⟨-, -, ⟨held, same⟩ | ⟨absent, -⟩⟩ := row.openFile opened
  · rw [aligned.first] at held
    cases held
    exact ⟨rfl, same⟩
  · rw [aligned.first] at absent
    cases absent

/-! ### The rotation -/

theorem Aligned.close_eq (aligned : file.Aligned active disk) :
    file.close disk = ({ file with active := none }, (active.flush disk).2) := by
  simp [close, RollingFile.flush, aligned.opened]

/-- A rotation that succeeds has made way and opened a file. -/
theorem Aligned.exists_of_rotate (aligned : file.Aligned active disk)
    (succeeded : (file.rotate disk).result = .ok ()) :
    ∃ shifted inode disk',
      shift { file with active := none } (active.flush disk).2 = (.ok (), shifted) ∧
      shifted.openFile file.location = .ok (inode, disk') ∧
      file.rotate disk = ⟨.ok (), { file with
        written := (disk'.bytes inode).size
        active := some ⟨inode, .empty, max file.limits.bufferSize 1⟩ }, disk',
        [.rotated file.path]⟩ := by
  unfold RollingFile.rotate at succeeded ⊢
  rw [aligned.close_eq] at succeeded ⊢
  simp only at succeeded ⊢
  cases shifting : shift { file with active := none } (active.flush disk).2 with
  | mk result shifted =>
    rw [shifting] at succeeded
    cases result with
    | error fault => cases succeeded
    | ok =>
      obtain ⟨inode, disk', made, reopened⟩ := exists_of_reopen succeeded
      refine ⟨shifted, inode, disk', rfl, made, ?_⟩
      simp only [reopened]
      rfl

/-- Where no backup may be kept, the active file is emptied in its place. -/
theorem Aligned.truncate {shifted : Disk} (aligned : file.Aligned active disk)
    (emptied : disk.truncate file.location = .ok shifted) :
    disk.ChangesOnly shifted active.inode ∧ shifted.bytes active.inode = .empty := by
  obtain ⟨⟨other, opened⟩, found, made⟩ := bind_eq_ok_iff.mp emptied
  obtain ⟨rfl, rfl⟩ := aligned.openFile_eq found
  obtain rfl : opened.overwrite active.inode .empty = shifted := Except.ok.inj made
  exact ⟨.overwrite _ _ _, bytes_overwrite_self aligned.listed .empty⟩

section MakingWay

variable {vacated : RollingFile} {shifted : Disk} (aligned : file.Aligned active disk)
  (moved : vacated.shift disk = (.ok (), shifted)) (location : vacated.location = file.location)
  (limits : vacated.limits = file.limits)

include moved location limits

theorem truncate_of_shift (bare : file.limits.maxFiles = 0) :
    disk.truncate file.location = .ok shifted := by
  rw [shift, limits, if_pos bare, location] at moved
  cases truncated : disk.truncate file.location with
  | error fault => simp [truncated] at moved
  | ok after => simpa [truncated] using moved

include aligned

/-- Where backups may be kept, the row moves up. -/
theorem Aligned.slots_of_shift (positive : 0 < file.limits.maxFiles) :
    (∃ directory base, Row shifted file.location directory base) ∧
      shifted.contents = disk.contents ∧ ∀ n, shifted.slots file.location n =
        if n = 0 then none
        else if n ≤ file.limits.maxFiles then disk.slots file.location (n - 1)
        else disk.slots file.location n := by
  obtain ⟨directory, base, row⟩ := aligned.row
  have files : vacated.OnlyFiles disk := by
    intro n
    rw [location]
    exact aligned.files n
  obtain ⟨row', same, slots⟩ := shift_slots (limits ▸ positive) (location ▸ row) files
    (location ▸ aligned.first) moved
  simp only [location, limits] at row' slots
  exact ⟨⟨directory, base, row'⟩, same, slots⟩

/-- Whichever way is made for it, the file that is opened is empty. -/
theorem Aligned.rotated (made : shifted.openFile file.location = .ok (inode, disk')) :
    file.Rotated active disk disk' inode := by
  by_cases bare : file.limits.maxFiles = 0
  · obtain ⟨changes, emptied⟩ :=
      aligned.truncate (truncate_of_shift moved location limits bare)
    have after := aligned.of_changesOnly active changes rfl aligned.kept file.written
    obtain ⟨rfl, rfl⟩ := after.openFile_eq made
    obtain ⟨directory, base, row⟩ := aligned.row
    obtain ⟨-, slots⟩ := row.of_same_nodes changes.nodes
    refine ⟨after.row, after.first, ?_, Or.inr ⟨bare, rfl⟩, after.listed, ?_, emptied,
      changes.others⟩
    · intro n behind
      rw [if_neg (by omega), slots]
    · rw [changes.size]
  · obtain ⟨⟨directory, base, row⟩, same, slots⟩ :=
      aligned.slots_of_shift moved location limits (Nat.pos_of_ne_zero bare)
    obtain ⟨row', first, ⟨held, -⟩ | ⟨-, rfl, pushed, later⟩⟩ := row.openFile made
    -- The first slot has been left, so the file that is opened is a new one.
    · rw [slots, if_pos rfl] at held
      cases held
    · have size : shifted.contents.size = disk.contents.size := by rw [same]
      have bytes := bytes_of_push pushed
      refine ⟨⟨directory, base, row'⟩, first, ?_, Or.inl size, ?_, ?_, ?_, ?_⟩
      · intro n behind
        rw [later n (by omega), slots, if_neg (by omega)]
      · rw [pushed, Array.size_push]
        exact Nat.lt_succ_self _
      · rw [pushed, Array.size_push, size]
        exact Nat.le_succ _
      · rw [bytes, if_pos rfl]
      · intro other apart
        rw [bytes, if_neg apart, Disk.bytes, same]
        rfl

theorem Aligned.exists_openFile (accepted : file.NamesFit) :
    ∃ inode disk', shifted.openFile file.location = .ok (inode, disk') := by
  by_cases bare : file.limits.maxFiles = 0
  · obtain ⟨changes, -⟩ := aligned.truncate (truncate_of_shift moved location limits bare)
    -- The file is emptied where it stands, so it is there to be opened.
    have after := aligned.of_changesOnly active changes rfl aligned.kept file.written
    obtain ⟨directory, base, row⟩ := after.row
    exact row.exists_openFile (accepted.slot row (Nat.zero_le _)) (after.files 0)
  · obtain ⟨⟨directory, base, row⟩, -, slots⟩ :=
      aligned.slots_of_shift moved location limits (Nat.pos_of_ne_zero bare)
    have free : shifted.slots file.location 0 = none := by rw [slots, if_pos rfl]
    refine row.exists_openFile (accepted.slot row (Nat.zero_le _)) ?_
    rw [free]
    nofun

end MakingWay

namespace Rotated

variable (rotated : file.Rotated active disk disk' inode) (aligned : file.Aligned active disk)

include rotated aligned

omit aligned in
theorem contentAt?_location : disk'.contentAt? file.location = some .empty := by
  obtain ⟨directory, base, row⟩ := rotated.row
  rw [← rotated.emptied]
  exact row.contentAt?_of_first rotated.first

/-- The file that was opened is none of those behind it, nor the one that was active before unless
that was emptied. -/
theorem ne_of_slot {m other : Nat} (spared : 0 < m ∨ 0 < file.limits.maxFiles)
    (leads : disk.slots file.location m = some (.file other)) : other ≠ inode := by
  rintro rfl
  have listed := aligned.known m _ leads
  rcases rotated.fresh with new | ⟨bare, same⟩
  · omega
  · rw [same] at leads
    exact aligned.alone m (by omega) leads

theorem contentAt?_slot {n : Nat} (behind : 0 < n) :
    disk'.contentAt? (file.location.slot n) =
      if n ≤ file.limits.maxFiles then disk.contentAt? (file.location.slot (n - 1))
      else disk.contentAt? (file.location.slot n) := by
  obtain ⟨directory, base, row⟩ := aligned.row
  obtain ⟨_, _, row'⟩ := rotated.row
  have later := rotated.later n behind
  split
  next low =>
    rw [if_pos low] at later
    apply row.contentAt?_slot_congr row' later
    intro other leads
    exact rotated.others other (rotated.ne_of_slot aligned (Or.inr (by omega)) leads)
  next high =>
    rw [if_neg high] at later
    apply row.contentAt?_slot_congr row' later
    intro other leads
    exact rotated.others other (rotated.ne_of_slot aligned (Or.inl behind) leads)

theorem holds_slot {n : Nat} (behind : 0 < n) :
    disk'.holds (file.location.slot n) =
      if n ≤ file.limits.maxFiles then disk.holds (file.location.slot (n - 1))
      else disk.holds (file.location.slot n) := by
  obtain ⟨directory, base, row⟩ := aligned.row
  obtain ⟨_, _, row'⟩ := rotated.row
  rw [row'.holds_slot, row.holds_slot, row.holds_slot, rotated.later n behind]
  split <;> rfl

/-- The file that was opened stands in the first slot of a row again. -/
theorem aligned_again (capacity written : Nat) :
    Aligned { file with active := some ⟨inode, .empty, capacity⟩, written }
      ⟨inode, .empty, capacity⟩ disk' := by
  -- What stands behind the first slot stood in the row before, and it is another file.
  have former : ∀ n, 0 < n → ∃ m, (0 < m ∨ 0 < file.limits.maxFiles) ∧
      disk'.slots file.location n = disk.slots file.location m := by
    intro n behind
    rw [rotated.later n behind]
    split
    · exact ⟨n - 1, Or.inr (by omega), rfl⟩
    · exact ⟨n, Or.inl behind, rfl⟩
  refine ⟨rfl, aligned.buffer, Nat.zero_le _, rotated.row, rotated.first, ?_, ?_, ?_⟩
  · intro n behind leads
    obtain ⟨m, spared, same⟩ := former n behind
    exact rotated.ne_of_slot aligned spared (same.symm.trans leads) rfl
  · intro n
    rcases Nat.eq_zero_or_pos n with rfl | behind
    · exact fun leads => nomatch rotated.first.symm.trans leads
    · obtain ⟨m, -, same⟩ := former n behind
      exact fun leads => aligned.files m (same.symm.trans leads)
  · intro n other leads
    rcases Nat.eq_zero_or_pos n with rfl | behind
    · obtain rfl : inode = other := by simpa using rotated.first.symm.trans leads
      exact rotated.listed
    · obtain ⟨m, -, same⟩ := former n behind
      exact Nat.lt_of_lt_of_le (aligned.known m other (same.symm.trans leads)) rotated.grown

end Rotated

/-! ### Calls -/

theorem Aligned.exists_rotated (aligned : file.Aligned active disk)
    (succeeded : (file.rotate disk).result = .ok ()) :
    ∃ inode capacity, (file.rotate disk).file =
        { file with active := some ⟨inode, .empty, capacity⟩, written := 0 } ∧
      Rotated { file with active := some (active.flush disk).1 } (active.flush disk).1
        (active.flush disk).2 (file.rotate disk).disk inode := by
  obtain ⟨shifted, inode, disk', moved, made, ran⟩ := aligned.exists_of_rotate succeeded
  have rotated : Rotated { file with active := some (active.flush disk).1 } (active.flush disk).1
      (active.flush disk).2 disk' inode := aligned.sent.rotated moved rfl rfl made
  rw [ran]
  refine ⟨inode, max file.limits.bufferSize 1, ?_, rotated⟩
  simp [rotated.emptied]

theorem Aligned.rotate (aligned : file.Aligned active disk)
    (succeeded : (file.rotate disk).result = .ok ()) :
    ∃ active', (file.rotate disk).file.Aligned active' (file.rotate disk).disk := by
  obtain ⟨inode, capacity, shape, rotated⟩ := aligned.exists_rotated succeeded
  rw [shape]
  exact ⟨_, rotated.aligned_again aligned.sent capacity 0⟩

/-- A rotation fails only if a name is not accepted. -/
theorem Aligned.rotate_succeeds (aligned : file.Aligned active disk) (accepted : file.NamesFit) :
    (file.rotate disk).result = .ok () := by
  obtain ⟨directory, base, row⟩ := aligned.sent.row
  obtain ⟨shifted, moved⟩ : ∃ shifted,
      shift { file with active := none } (active.flush disk).2 = (.ok (), shifted) :=
    exists_shift row aligned.sent.files accepted aligned.sent.first
  obtain ⟨inode, disk', made⟩ := aligned.sent.exists_openFile moved rfl rfl accepted
  have fits : ¬ greatestBuffer < file.limits.bufferSize := Nat.not_lt_of_le aligned.buffer
  have made : shifted.openFile (location { file with active := none }) = .ok (inode, disk') := made
  unfold RollingFile.rotate reopen
  rw [aligned.close_eq]
  simp only [moved, made, if_neg fits]

theorem Aligned.handle (aligned : file.Aligned active disk) {call : RollingCall}
    (succeeded : (file.handle disk call).result = .ok ()) :
    ∃ active', (file.handle disk call).file.Aligned active' (file.handle disk call).disk := by
  cases call with
  | rotate => exact aligned.rotate succeeded
  | flush => exact aligned.flush
  | write record =>
    rw [RollingFile.handle, writeAll_eq] at succeeded ⊢
    unfold makeRoom at succeeded ⊢
    by_cases full : file.needsRotation record.size = true
    -- The rotation that makes room has succeeded, for the call has.
    · rw [if_pos full] at succeeded ⊢
      simp only at succeeded ⊢
      cases rotated : (file.rotate disk).result with
      | error fault =>
        rw [rotated] at succeeded
        cases succeeded
      | ok =>
        obtain ⟨active₁, aligned₁⟩ := aligned.rotate rotated
        obtain ⟨active₂, -, aligned₂, -⟩ := aligned₁.write record
        exact ⟨active₂, aligned₂⟩
    · rw [if_neg full]
      obtain ⟨active₁, -, aligned₁, -⟩ := aligned.write record
      exact ⟨active₁, aligned₁⟩

/-- Each of the calls succeeds. -/
def Succeeds (file : RollingFile) (disk : Disk) : List RollingCall → Prop
  | [] => True
  | call :: rest => (file.handle disk call).result = .ok () ∧
      Succeeds (file.handle disk call).file (file.handle disk call).disk rest

theorem Aligned.afterCalls (aligned : file.Aligned active disk) {calls : List RollingCall}
    (succeeding : file.Succeeds disk calls) :
    ∃ active', (file.afterCalls disk calls).1.Aligned active' (file.afterCalls disk calls).2 := by
  induction calls generalizing file active disk with
  | nil => exact ⟨active, aligned⟩
  | cons call rest ih =>
    obtain ⟨succeeded, later⟩ := succeeding
    obtain ⟨active', aligned'⟩ := aligned.handle succeeded
    exact ih aligned' later

theorem aligned_of_openIn {directory name : String} {limits : RollingLimits}
    {start opened : Disk} (opening : openIn directory name limits start = (.ok file, opened))
    (sound : start.Sound) (files : file.OnlyFiles opened)
    (alone : ∀ n, 0 < n → opened.slots file.location n ≠ opened.slots file.location 0) :
    ∃ active, file.Aligned active opened := by
  obtain ⟨reopened, rfl, rfl⟩ := exists_of_openIn opening
  have buffer := bufferSize_le_of_reopen reopened
  have ready := (addsDirectories_makeDirectories (Location.ofText directory) start).sound sound
  obtain ⟨inode, opened, made, shape⟩ := exists_of_reopen reopened
  obtain ⟨path, base, row⟩ := exists_row made
  obtain ⟨row', first, -⟩ := row.openFile made
  rw [shape] at files alone ⊢
  have first : opened.slots (location ⟨directory, name, limits, none, 0⟩) 0 = some (.file inode) :=
    first
  refine ⟨⟨inode, .empty, max limits.bufferSize 1⟩, rfl, buffer, Nat.zero_le _, ⟨path, base, row'⟩,
    first, ?_, files, ?_⟩
  · intro n behind leads
    exact alone n behind (leads.trans first.symm)
  · intro n other leads
    exact (ready.openFile made).1.lt_of_node? (row'.slots_eq_some_iff.mp leads).2

/-! ### What stands at each location -/

/-- What stands at a backup after a rotation, by what stood at the slots before. -/
theorem Aligned.backup_of_rotate (aligned : file.Aligned active disk)
    (succeeded : (file.rotate disk).result = .ok ()) {n : Nat} (behind : 0 < n) :
    (file.rotate disk).disk.holds (file.backup n) =
        (if n ≤ file.limits.maxFiles then (active.flush disk).2.holds (file.location.slot (n - 1))
        else (active.flush disk).2.holds (file.location.slot n)) ∧
      (file.rotate disk).disk.contentAt? (file.backup n) =
        (if n ≤ file.limits.maxFiles then
          (active.flush disk).2.contentAt? (file.location.slot (n - 1))
        else (active.flush disk).2.contentAt? (file.location.slot n)) := by
  obtain ⟨inode, capacity, -, rotated⟩ := aligned.exists_rotated succeeded
  rw [backup_eq_slot behind]
  exact ⟨rotated.holds_slot aligned.sent behind, rotated.contentAt?_slot aligned.sent behind⟩

end Steps

/-- **A rotation moves the row up by one.** Opening a file in a row of files, no other of which is
the same file, leads to an aligned file, and so does every run of calls that succeed; what is
written is added to what the file and its buffer hold together. The rotation of an aligned file
succeeds where the names are accepted. Afterwards the first backup holds everything that was
written to the file, with what was still kept in memory; each backup up to the last that may be
kept has moved up by one or is missing as it was before, and any other is unchanged. The active
file is empty. Where no backup may be kept, that leaves every backup as it was. -/
theorem rotation_moves_row :
    (∀ (directory name : String) (limits : RollingLimits) (start opened : Disk)
      (file : RollingFile), openIn directory name limits start = (.ok file, opened) →
      start.Sound → file.OnlyFiles opened →
      (∀ n, 0 < n → opened.slots file.location n ≠ opened.slots file.location 0) →
      ∀ calls, file.Succeeds opened calls → ∃ active,
        (file.afterCalls opened calls).1.Aligned active (file.afterCalls opened calls).2) ∧
    (∀ (file : RollingFile) (active : OpenFile) (disk : Disk), file.Aligned active disk →
      (∀ record, ∃ active', (file.write disk record).result = .ok record.size ∧
        (file.write disk record).file.Aligned active' (file.write disk record).disk ∧
        active'.whole (file.write disk record).disk = active.whole disk ++ record) ∧
      (file.NamesFit → (file.rotate disk).result = .ok ()) ∧
      ((file.rotate disk).result = .ok () →
        let rotated := file.rotate disk
        (0 < file.limits.maxFiles →
          rotated.disk.contentAt? (file.backup 1) = some (active.whole disk)) ∧
        (∀ k, 0 < k → k < file.limits.maxFiles →
          rotated.disk.holds (file.backup (k + 1)) = disk.holds (file.backup k) ∧
          rotated.disk.contentAt? (file.backup (k + 1)) = disk.contentAt? (file.backup k)) ∧
        (∀ n, 0 < n → file.limits.maxFiles < n →
          rotated.disk.holds (file.backup n) = disk.holds (file.backup n) ∧
          rotated.disk.contentAt? (file.backup n) = disk.contentAt? (file.backup n)) ∧
        rotated.disk.contentAt? file.location = some .empty ∧ rotated.file.written = 0)) := by
  constructor
  · intro directory name limits start opened file opening sound files alone calls succeeding
    obtain ⟨active, aligned⟩ := aligned_of_openIn opening sound files alone
    exact aligned.afterCalls succeeding
  · intro file active disk aligned
    refine ⟨aligned.write, aligned.rotate_succeeds, fun succeeded => ?_⟩
    intro rotated
    obtain ⟨inode, capacity, shape, made⟩ := aligned.exists_rotated succeeded
    refine ⟨fun positive => ?_, fun k low high => ?_, fun n behind beyond => ?_,
      made.contentAt?_location, ?_⟩
    · rw [(aligned.backup_of_rotate succeeded Nat.one_pos).2, if_pos (by omega)]
      exact aligned.first_sent
    · obtain ⟨held, content⟩ := aligned.backup_of_rotate succeeded (Nat.add_pos_left low 1)
      obtain ⟨held', content'⟩ := aligned.behind_sent low
      rw [held, content, if_pos (by omega), if_pos (by omega), Nat.add_sub_cancel,
        backup_eq_slot low]
      exact ⟨held', content'⟩
    · obtain ⟨held, content⟩ := aligned.backup_of_rotate succeeded behind
      obtain ⟨held', content'⟩ := aligned.behind_sent behind
      rw [held, content, if_neg (by omega), if_neg (by omega), backup_eq_slot behind]
      exact ⟨held', content'⟩
    · rw [shape]

/-- Two backups with a gap between them, and one behind the three that may be kept. A byte is still
in memory when the file is rotated. -/
theorem row_with_gap_moves :
    let start : Disk := ⟨[(["f"], .file 0), (["f.1"], .file 1), (["f.3"], .file 2),
      (["f.7"], .file 3)], #[⟨#[9]⟩, ⟨#[1]⟩, ⟨#[3]⟩, ⟨#[7]⟩]⟩
    let limits : RollingLimits := ⟨4, 0, 3⟩
    let file : RollingFile := ⟨"", "f", limits, some ⟨0, .empty, 4⟩, 1⟩
    let calls : List RollingCall := [.write ⟨#[8]⟩]
    let written := (file.afterCalls start calls).1
    let before := (file.afterCalls start calls).2
    let rotated := written.rotate before
    openIn "" "f" limits start = (.ok file, start) ∧ start.Sound ∧ file.OnlyFiles start ∧
      (∀ n, 0 < n → start.slots file.location n ≠ start.slots file.location 0) ∧
      file.Succeeds start calls ∧ written.NamesFit ∧ rotated.result = .ok () ∧
      before.contentAt? written.location = some ⟨#[9]⟩ ∧
      rotated.disk.contentAt? (written.backup 1) = some ⟨#[9, 8]⟩ ∧
      rotated.disk.contentAt? (written.backup 2) = some ⟨#[1]⟩ ∧
      rotated.disk.holds (written.backup 3) = false ∧
      rotated.disk.contentAt? (written.backup 7) = some ⟨#[7]⟩ ∧
      rotated.disk.contentAt? written.location = some .empty ∧ rotated.file.written = 0 := by
  intro start limits file calls written before rotated
  have opening : openIn "" "f" limits start = (.ok file, start) := by cbv
  have sound : start.Sound := by simp [Disk.Sound, start]
  have row : Row start file.location [] "f" := ⟨by cbv, by cbv, by cbv⟩
  -- What stands in a slot is listed at its name.
  have listed : ∀ n node, start.slots file.location n = some node →
      ([Location.slotName "f" n], node) ∈ start.nodes := fun n node leads =>
    mem_nodes_of_node? (by simp) (row.slots_eq_some_iff.mp leads).2
  have files : file.OnlyFiles start := by
    intro n leads
    have entry := listed n _ leads
    simp [start] at entry
  have alone : ∀ n, 0 < n → start.slots file.location n ≠ start.slots file.location 0 := by
    intro n behind leads
    have first : start.slots file.location 0 = some (.file 0) := by cbv
    have entry := listed n _ (leads.trans first)
    have name : Location.slotName "f" n = "f" := by simpa [start] using entry
    have same : Location.slotName "f" n = Location.slotName "f" 0 := name
    exact Nat.ne_of_gt behind (Location.slotName_injective "f" same)
  have succeeding : file.Succeeds start calls := ⟨by cbv, trivial⟩
  have accepted : written.NamesFit := by
    intro n allowed name named
    have limit : written.limits.maxFiles = 3 := by cbv
    have base : written.location.name = some "f" := by cbv
    obtain rfl : Location.slotName "f" n = name :=
      Option.some.inj ((Location.name_slot base n).symm.trans named)
    rw [limit] at allowed
    interval_cases n
    all_goals exact ⟨by cbv, by cbv⟩
  obtain ⟨opens, rotations⟩ := rotation_moves_row
  obtain ⟨active, aligned⟩ := opens "" "f" limits start start file opening sound files alone calls
    succeeding
  obtain ⟨-, succeeds, moves⟩ := rotations written active before aligned
  have succeeded := succeeds accepted
  obtain ⟨first, later, beyond, emptied, counted⟩ := moves succeeded
  have whole : active.whole before = ⟨#[9, 8]⟩ := by
    have here : written.active = some ⟨0, ⟨#[8]⟩, 4⟩ := by cbv
    obtain rfl := Option.some.inj (here.symm.trans aligned.opened)
    cbv
  refine ⟨opening, sound, files, alone, succeeding, accepted, succeeded, by cbv, ?_, ?_, ?_, ?_,
    emptied, counted⟩
  · exact (first (by cbv)).trans (congrArg some whole)
  · exact (later 1 (by decide) (by cbv)).2.trans (by cbv)
  · exact (later 2 (by decide) (by cbv)).1.trans (by cbv)
  · exact (beyond 7 (by decide) (by cbv)).2.trans (by cbv)

end RollingFile

end Tapline
