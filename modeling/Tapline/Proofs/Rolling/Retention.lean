import Mathlib
import Tapline.Proofs.Rolling.Blocks
import Tapline.Proofs.Rolling.Places
/-!
# What becomes of older backups

Any run of calls, on any disk, whether the calls succeed or fail.

## Main results

- `backups_beyond_limit_stay`: no call looks at a backup whose number is greater than may be kept.
  A row that was left by an opening with a greater limit keeps such backups for good.
- `failing_calls_keep_backups`: a call that fails moves backups up by one at most, but it lets go of
  the oldest that may be kept, since that is removed before anything else is tried.

Both follow from `shift_climbs`. A call makes a step of that kind or leaves the backups where they
are, and so a run of calls climbs by at most as many places as there are calls.
-/

namespace Tapline

/-- A call on a rolling file. -/
inductive RollingCall
  | write (record : ByteArray)
  | rotate
  | flush

namespace RollingFile

open Disk

def handle (file : RollingFile) (disk : Disk) : RollingCall → RollingStep Unit
  | .write record => file.writeAll disk record
  | .rotate => file.rotate disk
  | .flush => file.flush disk

def afterCalls (file : RollingFile) (disk : Disk) : List RollingCall → RollingFile × Disk
  | [] => (file, disk)
  | call :: rest => afterCalls (file.handle disk call).file (file.handle disk call).disk rest

/-- What is done before a record is written. -/
def makeRoom (file : RollingFile) (disk : Disk) (incoming : Nat) : RollingStep Unit :=
  if file.needsRotation incoming then file.rotate disk else ⟨.ok (), file, disk, []⟩

theorem writeAll_eq (file : RollingFile) (disk : Disk) (record : ByteArray) :
    file.writeAll disk record =
      let ready := file.makeRoom disk record.size
      match ready.result with
      | .error fault => ⟨.error fault, ready.file, ready.disk, ready.notices⟩
      | .ok () =>
        let written := ready.file.write ready.disk record
        ⟨written.result.map (fun _ => ()), written.file, written.disk,
          ready.notices ++ written.notices⟩ := rfl

/-- Each of the calls fails. -/
def Fails (file : RollingFile) (disk : Disk) : List RollingCall → Prop
  | [] => True
  | call :: rest => (∃ fault, (file.handle disk call).result = .error fault) ∧
      Fails (file.handle disk call).file (file.handle disk call).disk rest

/-! ### Places -/

/-- The same file, after a change of its row. -/
structure Moves (steps : Nat) (file file' : RollingFile) (disk disk' : Disk) : Prop where
  location : file'.location = file.location
  limits : file'.limits = file.limits
  climbs : Climbs file.location file.limits.maxFiles steps disk disk'

namespace Moves

variable {file file' file'' : RollingFile} {disk disk' disk'' : Disk} {steps more : Nat}

theorem refl (file : RollingFile) (disk : Disk) : Moves 0 file file disk disk :=
  ⟨rfl, rfl, .of_same_nodes rfl⟩

theorem mono (moves : Moves steps file file' disk disk') (fewer : steps ≤ more) :
    Moves more file file' disk disk' :=
  ⟨moves.location, moves.limits, moves.climbs.mono fewer⟩

theorem trans (first : Moves steps file file' disk disk')
    (second : Moves more file' file'' disk' disk'') :
    Moves (steps + more) file file'' disk disk'' where
  location := second.location.trans first.location
  limits := second.limits.trans first.limits
  climbs := by
    have later := second.climbs
    rw [first.location, first.limits] at later
    exact first.climbs.trans later

end Moves

section Calls

variable (file : RollingFile) (disk : Disk)

theorem flush_moves : Moves 0 file (file.flush disk).file disk (file.flush disk).disk := by
  unfold flush
  split
  · exact .refl file disk
  · exact ⟨rfl, rfl, .of_same_nodes rfl⟩

theorem close_moves : Moves 0 file (file.close disk).1 disk (file.close disk).2 :=
  ⟨(flush_moves file disk).location, (flush_moves file disk).limits, (flush_moves file disk).climbs⟩

theorem reopen_moves : Moves 0 file (file.reopen disk).file disk (file.reopen disk).disk := by
  unfold reopen
  cases opened : disk.openFile file.location with
  | error fault => exact .refl file disk
  | ok pair =>
    obtain ⟨inode, disk'⟩ := pair
    have climbs : Climbs file.location file.limits.maxFiles 0 disk disk' :=
      .of_same fun n behind => node?_place_of_openFile opened behind
    simp only
    split
    · exact ⟨rfl, rfl, climbs⟩
    · exact ⟨rfl, rfl, climbs⟩

variable {file} in
theorem rotate_moves (names : file.location.NamesFile) :
    Moves 1 file (file.rotate disk).file disk (file.rotate disk).disk := by
  unfold rotate
  have closing := close_moves file disk
  cases closed : file.close disk with
  | mk file₁ disk₁ =>
    rw [closed] at closing
    have names₁ : file₁.location.NamesFile := by
      rw [closing.location]
      exact names
    have climbs := (shift_climbs names₁ disk₁).1
    simp only
    cases shifted : file₁.shift disk₁ with
    | mk result disk₂ =>
      rw [shifted] at climbs
      have moves : Moves 1 file file₁ disk disk₂ :=
        (closing.trans ⟨rfl, rfl, climbs⟩).mono (Nat.le_of_eq (Nat.zero_add 1))
      cases result with
      | error fault => exact moves
      | ok => exact moves.trans (reopen_moves file₁ disk₂)

theorem ensureOpen_moves :
    Moves 0 file (file.ensureOpen disk).file disk (file.ensureOpen disk).disk := by
  unfold ensureOpen
  split
  · exact .refl file disk
  · exact reopen_moves file disk

theorem write_moves (record : ByteArray) :
    Moves 0 file (file.write disk record).file disk (file.write disk record).disk := by
  unfold write
  have opening := ensureOpen_moves file disk
  generalize file.ensureOpen disk = ready at opening ⊢
  simp only
  split
  · exact opening
  · exact opening
  next active _ _ =>
    have same := (active.write_changesOnly ready.disk record).nodes
    change Moves (0 + 0) file _ disk _
    exact opening.trans ⟨rfl, rfl, .of_same_nodes same⟩

variable {file} in
theorem makeRoom_moves (names : file.location.NamesFile) (incoming : Nat) :
    Moves 1 file (file.makeRoom disk incoming).file disk (file.makeRoom disk incoming).disk := by
  unfold makeRoom
  split
  · exact rotate_moves disk names
  · exact (Moves.refl file disk).mono (Nat.zero_le 1)

variable {file} in
theorem handle_moves (names : file.location.NamesFile) (call : RollingCall) :
    Moves 1 file (file.handle disk call).file disk (file.handle disk call).disk := by
  cases call with
  | write record =>
    rw [handle, writeAll_eq]
    have moves := makeRoom_moves disk names record.size
    generalize file.makeRoom disk record.size = ready at moves ⊢
    simp only
    split
    · exact moves
    · exact moves.trans (write_moves ready.file ready.disk record)
  | rotate => exact rotate_moves disk names
  | flush => exact (flush_moves file disk).mono (Nat.zero_le 1)

variable {file} in
/-- A run climbs by one place a call. -/
theorem afterCalls_moves (names : file.location.NamesFile) (calls : List RollingCall) :
    Moves calls.length file (file.afterCalls disk calls).1 disk (file.afterCalls disk calls).2 := by
  induction calls generalizing file disk with
  | nil => exact .refl file disk
  | cons call rest ih =>
    have first := handle_moves disk names call
    have names' : (file.handle disk call).file.location.NamesFile := by
      rw [first.location]
      exact names
    have moves := first.trans (ih (file.handle disk call).disk names')
    rw [Nat.add_comm] at moves
    exact moves

end Calls

/-! ### Backups that may not be kept -/

theorem namesFile_of_openIn {directory name : String} {limits : RollingLimits}
    {start opened : Disk} {file : RollingFile}
    (opening : openIn directory name limits start = (.ok file, opened)) :
    file.location.NamesFile ∧ file.limits = limits ∧
      Climbs file.location limits.maxFiles 0
        (start.makeDirectories (Location.ofText directory)).2 opened := by
  obtain ⟨reopened, made, there⟩ := exists_of_openIn opening
  obtain ⟨inode, disk', found, -⟩ := exists_of_reopen reopened
  have names := (openFile_cases found).1
  have moves := reopen_moves ⟨directory, name, limits, none, 0⟩
    (start.makeDirectories (Location.ofText directory)).2
  rw [made, there] at moves
  refine ⟨?_, moves.limits, ?_⟩
  · rw [moves.location]
    exact names
  · rw [moves.location]
    exact moves.climbs

/-- **Backups beyond the limit stay.** Whatever is called, a file is at a place beyond the limit
exactly if the same file was there before the opening. So there are none after a run if and only if
there were none before it: rotations keep to the limit, and they do not bring a row down to it. -/
theorem backups_beyond_limit_stay {directory name : String} {limits : RollingLimits}
    {start opened : Disk} {file : RollingFile}
    (opening : openIn directory name limits start = (.ok file, opened))
    (calls : List RollingCall) :
    let final := (file.afterCalls opened calls).2
    (∀ n inode, limits.maxFiles < n →
      (final.node? (file.location.place n) = some (.file inode) ↔
        start.node? (file.location.place n) = some (.file inode))) ∧
    ((∀ n inode, limits.maxFiles < n → final.node? (file.location.place n) ≠ some (.file inode)) ↔
      ∀ n inode, limits.maxFiles < n →
        start.node? (file.location.place n) ≠ some (.file inode)) := by
  intro final
  obtain ⟨names, same, reopened⟩ := namesFile_of_openIn opening
  have moves := afterCalls_moves opened names calls
  have adds := addsDirectories_makeDirectories (Location.ofText directory) start
  have each : ∀ n inode, limits.maxFiles < n →
      (final.node? (file.location.place n) = some (.file inode) ↔
        start.node? (file.location.place n) = some (.file inode)) := by
    intro n inode beyond
    rw [moves.climbs.beyond n (by rw [same]; exact beyond), reopened.beyond n beyond]
    -- Making the directory adds directories, which are no files.
    rcases adds.nodes (file.location.place n) with unchanged | ⟨absent, added⟩
    · rw [unchanged]
    · rw [absent, added]
      simp
  refine ⟨each, ?_, ?_⟩
  · intro free n inode beyond there
    exact free n inode beyond ((each n inode beyond).mpr there)
  · intro free n inode beyond there
    exact free n inode beyond ((each n inode beyond).mp there)

/-- The third backup of an earlier run stays behind the only one that may be kept. -/
theorem third_backup_stays :
    let start : Disk := ⟨[(["f.3"], .file 0)], #[⟨#[1]⟩]⟩
    let opened : Disk := ⟨[(["f"], .file 1), (["f.3"], .file 0)], #[⟨#[1]⟩, .empty]⟩
    let file : RollingFile := ⟨"", "f", ⟨4, 4, 1⟩, some ⟨1, .empty, 4⟩, 0⟩
    let calls : List RollingCall := [.write ⟨#[2, 2, 2, 2]⟩, .rotate, .flush]
    openIn "" "f" ⟨4, 4, 1⟩ start = (.ok file, opened) ∧
      (file.afterCalls opened calls).2.node? (file.location.place 3) = some (.file 0) := by
  intro start opened file calls
  have opening : openIn "" "f" ⟨4, 4, 1⟩ start = (.ok file, opened) := by cbv
  have there : start.node? (file.location.place 3) = some (.file 0) := by cbv
  have stays := (backups_beyond_limit_stay opening calls).1 3 0 (by decide)
  exact ⟨opening, stays.mpr there⟩

/-- A rotation that succeeds does not bring a row down to its limit. -/
theorem rotation_leaves_third_backup :
    let start : Disk := ⟨[(["f"], .file 0), (["f.3"], .file 1)], #[⟨#[2, 2, 2, 2]⟩, ⟨#[1]⟩]⟩
    let limits : RollingLimits := ⟨4, 4, 1⟩
    let file : RollingFile := ⟨"", "f", limits, some ⟨0, .empty, 4⟩, 4⟩
    let rotated := file.writeAll start ⟨#[3, 3, 3, 3]⟩
    openIn "" "f" limits start = (.ok file, start) ∧
      rotated.result = .ok () ∧ rotated.notices = [.rotated "f"] ∧
      ∃ n, limits.maxFiles < n ∧ rotated.disk.contentAt? (file.backup n) = some ⟨#[1]⟩ := by
  intro start limits file rotated
  have run : file.writeAll start ⟨#[3, 3, 3, 3]⟩ =
      ⟨.ok (), ⟨"", "f", limits, some ⟨2, .empty, 4⟩, 4⟩, ⟨[(["f"], .file 2), (["f.1"], .file 0), (["f.3"], .file 1)],
        #[⟨#[2, 2, 2, 2]⟩, ⟨#[1]⟩, ⟨#[3, 3, 3, 3]⟩]⟩, [.rotated "f"]⟩ := by
    cbv
  have opening : openIn "" "f" limits start = (.ok file, start) := by cbv
  have remains : rotated.disk.contentAt? (file.backup 3) = some ⟨#[1]⟩ := by
    simp only [rotated, run]
    cbv
  refine ⟨opening, ?_, ?_, 3, by decide, remains⟩
  · simp only [rotated, run]
  · simp only [rotated, run]

/-! ### Calls that fail -/

/-- A change of no file but the open one. -/
def Spares (file : RollingFile) (disk disk' : Disk) : Prop :=
  ∀ inode, (∀ active, file.active = some active → active.inode ≠ inode) →
    disk'.bytes inode = disk.bytes inode

section Failures

variable {file : RollingFile} {disk : Disk}

theorem close_spares (file : RollingFile) (disk : Disk) :
    file.Spares disk (file.close disk).2 := by
  intro inode closed
  unfold close flush
  cases open_ : file.active with
  | none => rfl
  | some active =>
    exact (active.flush_changesOnly disk).others inode (Ne.symm (closed active open_))

theorem bytes_reopen (file : RollingFile) (disk : Disk) (inode : Nat) :
    (file.reopen disk).disk.bytes inode = disk.bytes inode := by
  unfold reopen
  cases opened : disk.openFile file.location with
  | error fault => rfl
  | ok pair =>
    obtain ⟨other, disk'⟩ := pair
    have same := bytes_of_openFile opened inode
    simp only
    split
    · exact same
    · exact same

theorem active_of_reopen {fault : StreamFault} (failed : (file.reopen disk).result = .error fault) :
    (file.reopen disk).file.active = file.active := by
  unfold reopen at failed ⊢
  cases opened : disk.openFile file.location with
  | error fault' => rfl
  | ok pair =>
    simp only [opened] at failed ⊢
    split
    · rfl
    next fits =>
      rw [if_neg fits] at failed
      cases failed

theorem active_of_rotate (rotated : (file.rotate disk).result = .ok ()) :
    ∃ active, (file.rotate disk).file.active = some active := by
  unfold rotate at rotated ⊢
  simp only at rotated ⊢
  split at rotated
  · cases rotated
  · obtain ⟨inode, disk', -, reopened⟩ := exists_of_reopen rotated
    simp only [reopened]
    exact ⟨_, rfl⟩

/-- A rotation that may keep backups changes none of them, and one that fails leaves no open
file. -/
theorem rotate_spares (disk : Disk) (names : file.location.NamesFile)
    (keeps : 0 < file.limits.maxFiles) :
    file.Spares disk (file.rotate disk).disk ∧
      ∀ fault, (file.rotate disk).result = .error fault →
        (file.rotate disk).file.active = none := by
  unfold rotate
  have spared := close_spares file disk
  have closing := close_moves file disk
  have left : (file.close disk).1.active = none := rfl
  cases closed : file.close disk with
  | mk file₁ disk₁ =>
    rw [closed] at spared closing left
    have names₁ : file₁.location.NamesFile := closing.location ▸ names
    have keeps₁ : 0 < file₁.limits.maxFiles := closing.limits ▸ keeps
    have same := (shift_climbs names₁ disk₁).2 keeps₁
    simp only
    cases shifted : file₁.shift disk₁ with
    | mk result disk₂ =>
      rw [shifted] at same
      have bytes : ∀ inode, disk₂.bytes inode = disk₁.bytes inode := by
        intro inode
        rw [Disk.bytes, same]
        rfl
      cases result with
      | error fault =>
        -- The active file was closed before anything could fail.
        constructor
        · intro inode apart
          rw [bytes, spared inode apart]
        · intro _ _
          exact left
      | ok =>
        constructor
        · intro inode apart
          simp only
          rw [bytes_reopen, bytes, spared inode apart]
        · intro fault failed
          rw [← left]
          exact active_of_reopen failed

/-- A record can only be refused when no file is open and none can be opened. -/
theorem write_of_error {record : ByteArray} {fault : StreamFault}
    (failed : (file.write disk record).result = .error fault) :
    file.active = none ∧ (file.write disk record).file.active = none ∧
      file.Spares disk (file.write disk record).disk := by
  unfold write ensureOpen at failed ⊢
  cases open_ : file.active with
  | some active => simp [open_] at failed
  | none =>
    simp only [open_, Option.isSome_none, Bool.false_eq_true, if_false] at failed ⊢
    have spared : file.Spares disk (file.reopen disk).disk :=
      fun inode _ => bytes_reopen file disk inode
    cases result : (file.reopen disk).result with
    | error fault' =>
      simp only
      have left := active_of_reopen result
      exact ⟨trivial, left.trans open_, spared⟩
    | ok =>
      obtain ⟨inode, disk', -, reopened⟩ := exists_of_reopen result
      rw [reopened] at failed
      cases failed

/-- A call that fails changes no file but the open one, and leaves none open. -/
theorem handle_spares (names : file.location.NamesFile) (keeps : 0 < file.limits.maxFiles)
    {call : RollingCall} {fault : StreamFault}
    (failed : (file.handle disk call).result = .error fault) :
    (file.handle disk call).file.active = none ∧ file.Spares disk (file.handle disk call).disk := by
  obtain ⟨spared, left⟩ := rotate_spares disk names keeps
  cases call with
  | rotate => exact ⟨left fault failed, spared⟩
  | flush =>
    rw [handle, flush] at failed
    split at failed
    · cases failed
    · cases failed
  | write record =>
    rw [handle, writeAll_eq] at failed ⊢
    unfold makeRoom at failed ⊢
    by_cases full : file.needsRotation record.size = true
    · rw [if_pos full] at failed ⊢
      cases rotated : (file.rotate disk).result with
      | error fault' =>
        simp only [rotated]
        exact ⟨left fault' rotated, spared⟩
      | ok =>
        -- The rotation left an open file, and that takes the record.
        obtain ⟨active, open_⟩ := active_of_rotate rotated
        have mapped : ((file.rotate disk).file.write (file.rotate disk).disk record).result.map
            (fun _ => ()) = .error fault := by simpa [rotated] using failed
        cases written : ((file.rotate disk).file.write (file.rotate disk).disk record).result with
        | error fault' =>
          rw [(write_of_error written).1] at open_
          cases open_
        | ok size =>
          rw [written] at mapped
          cases mapped
    · rw [if_neg full] at failed ⊢
      simp only at failed ⊢
      cases written : (file.write disk record).result with
      | error fault' => exact (write_of_error written).2
      | ok size =>
        rw [written] at failed
        cases failed

theorem afterCalls_spares (names : file.location.NamesFile) (keeps : 0 < file.limits.maxFiles)
    {calls : List RollingCall} (failing : file.Fails disk calls) :
    file.Spares disk (file.afterCalls disk calls).2 := by
  induction calls generalizing file disk with
  | nil => exact fun _ _ => rfl
  | cons call rest ih =>
    obtain ⟨⟨fault, failed⟩, later⟩ := failing
    have moves := handle_moves disk names call
    obtain ⟨left, spared⟩ := handle_spares names keeps failed
    have spared' := ih (moves.location ▸ names) (moves.limits ▸ keeps) later
    intro inode apart
    -- After the first failure no file is open, so nothing can be written at all.
    have none_open : ∀ active, (file.handle disk call).file.active = some active →
        active.inode ≠ inode := by
      intro active open_
      rw [left] at open_
      cases open_
    exact (spared' inode none_open).trans (spared inode apart)

/-- **Calls that fail keep all backups but the oldest.** A backup is found again with what it held,
at most as many places further up as there were calls, as long as so many places lie between it and
the limit; behind the limit it stays where it was. So a single call that fails can only let go of
the last backup that may be kept. -/
theorem failing_calls_keep_backups (names : file.location.NamesFile)
    (keeps : 0 < file.limits.maxFiles) (calls : List RollingCall)
    (failing : file.Fails disk calls) {n inode : Nat} (behind : 0 < n)
    (room : n + calls.length ≤ file.limits.maxFiles ∨ file.limits.maxFiles < n)
    (backup : disk.node? (file.location.place n) = some (.file inode)) :
    let final := (file.afterCalls disk calls).2
    ∃ m, n ≤ m ∧ m ≤ n + calls.length ∧ (file.limits.maxFiles < n → m = n) ∧
      final.node? (file.location.place m) = some (.file inode) ∧
      ((∀ active, file.active = some active → active.inode ≠ inode) →
        final.bytes inode = disk.bytes inode) := by
  intro final
  have climbs := (afterCalls_moves disk names calls).climbs
  have content := afterCalls_spares names keeps failing inode
  rcases room with below | beyond
  · obtain ⟨m, low, high, found⟩ := climbs.within n _ behind below backup
    exact ⟨m, low, high, fun above => by omega, found, content⟩
  · have found := climbs.beyond n beyond
    rw [backup] at found
    exact ⟨n, Nat.le_refl n, Nat.le_add_right n _, fun _ => rfl, found, content⟩

/-- The active file is removed by someone else. The first of three backups climbs over two
rotations that fail. -/
theorem first_of_three_backups_kept :
    let disk : Disk := ⟨[(["f.1"], .file 1), (["f.2"], .file 2), (["f.3"], .file 3)],
      #[.empty, ⟨#[1]⟩, ⟨#[2]⟩, ⟨#[3]⟩]⟩
    let file : RollingFile := ⟨"", "f", ⟨4, 4, 3⟩, some ⟨0, ⟨#[9]⟩, 4⟩, 1⟩
    let calls : List RollingCall := [.rotate, .write ⟨#[8, 8, 8, 8]⟩]
    file.location.NamesFile ∧ 0 < file.limits.maxFiles ∧ file.Fails disk calls ∧
      1 + calls.length ≤ file.limits.maxFiles ∧
      disk.node? (file.location.place 1) = some (.file 1) ∧
      ∃ m, 1 ≤ m ∧ m ≤ 3 ∧
        (file.afterCalls disk calls).2.node? (file.location.place m) = some (.file 1) ∧
        (file.afterCalls disk calls).2.bytes 1 = ⟨#[1]⟩ := by
  intro disk file calls
  have names : file.location.NamesFile := ⟨by cbv, by cbv⟩
  have failing : file.Fails disk calls :=
    ⟨⟨.refused .notFound, by cbv⟩, ⟨.refused .notFound, by cbv⟩, trivial⟩
  have backup : disk.node? (file.location.place 1) = some (.file 1) := by cbv
  have closed : ∀ active, file.active = some active → active.inode ≠ 1 := by
    intro active open_
    cases open_
    decide
  obtain ⟨m, low, high, -, found, same⟩ :=
    failing_calls_keep_backups names (by decide) calls failing Nat.one_pos (.inl (by decide)) backup
  exact ⟨names, by decide, failing, by decide, backup, m, low, high, found, same closed⟩

/-- The only backup that may be kept is gone although the rotation has failed. -/
theorem failed_rotation_drops_backup :
    let disk : Disk := ⟨[(["f.1"], .file 1)], #[.empty, ⟨#[1]⟩]⟩
    let file : RollingFile := ⟨"", "f", ⟨4, 4, 1⟩, some ⟨0, .empty, 4⟩, 4⟩
    let rotated := file.rotate disk
    disk.node? (file.location.place 1) = some (.file 1) ∧
      rotated.result = .error (.refused .notFound) ∧
      ∀ m, rotated.disk.node? (file.location.place m) ≠ some (.file 1) := by
  intro disk file rotated
  have run : file.rotate disk = ⟨.error (.refused .notFound),
      ⟨"", "f", ⟨4, 4, 1⟩, none, 4⟩, ⟨[], #[.empty, ⟨#[1]⟩]⟩, []⟩ := by
    cbv
  have backup : disk.node? (file.location.place 1) = some (.file 1) := by cbv
  refine ⟨backup, ?_, ?_⟩
  · simp only [rotated, run]
  · intro m found
    simp only [rotated, run] at found
    rw [node?_of_ne_nil (file.location.place_ne_nil m)] at found
    cases found

end Failures

end RollingFile

end Tapline
