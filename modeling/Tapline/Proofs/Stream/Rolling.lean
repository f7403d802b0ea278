import Tapline.Proofs.Rolling.Blocks
import Tapline.Proofs.Stream.Watched
/-!
# Rolling files as streams

A stream to a rolling file is written to, flushed and closed in any order, and opens the file again
when there is more to write. If no call on it fails then at any time the files are the newest blocks
of everything it was given, and nothing is kept back unless a write came last.

## Main result

`fills_keeps`: each call on a rolling file that is watched keeps `Fills`.

## Proof strategy

A closed file that keeps nothing back answers a write like an open one, so the steps of an open file
in `Stacked` serve for both.
-/

namespace Tapline

namespace RollingFile

open Disk

variable {origin : RollingFile} {active : OpenFile} {disk : Disk} {older : List Nat}
  {directory : Path} {base : String}

/-- A rolling file that was open with an open file in it, and was closed. -/
def sealing (origin : RollingFile) (active : OpenFile) (disk : Disk) : RollingFile :=
  { origin.holding active disk with active := none }

/-- Nothing is kept back. -/
def Clear (file : RollingFile) : Prop := ∀ active, file.active = some active → active.kept = .empty

theorem append_empty (disk : Disk) (inode : Nat) : disk.append inode .empty = disk := by
  have same : disk.contents.modify inode (· ++ .empty) = disk.contents := by
    apply Array.ext
    · exact Array.size_modify
    · intro n here there
      simp [Array.getElem_modify]
  rw [append, same]

/-- Closing comes before everything else in a rotation, so a closed file is rotated like one that
is open and has nothing to send. -/
theorem rotate_sealing (sent : active.kept = .empty) :
    (origin.sealing active disk).rotate disk = (origin.holding active disk).rotate disk := by
  have closed : (origin.holding active disk).close disk = (origin.sealing active disk, disk) := by
    simp [close, flush, holding, sealing, OpenFile.flush, sent, append_empty]
  have still : (origin.sealing active disk).close disk = (origin.sealing active disk, disk) := rfl
  rw [rotate, rotate, closed, still]

theorem Stacked.reopen (stacked : Stacked origin active disk older directory base)
    (sent : active.kept = .empty)
    (succeeded : ((origin.sealing active disk).reopen disk).result = .ok ()) :
    (origin.sealing active disk).reopen disk = ⟨.ok (), origin.holding
      { active with capacity := max origin.limits.bufferSize 1 } disk, disk, []⟩ := by
  obtain ⟨inode, disk', opened, reopened⟩ := exists_of_reopen succeeded
  obtain ⟨rfl, rfl⟩ := stacked.openFile_eq opened
  rw [reopened]
  obtain ⟨inode, kept, capacity⟩ := active
  obtain rfl : kept = .empty := sent
  simp [sealing, holding, OpenFile.whole]

/-- A write to a closed file opens it first, by a rotation or without one. -/
theorem Stacked.writeAll_sealing (stacked : Stacked origin active disk older directory base)
    (sent : active.kept = .empty) (record : ByteArray)
    (succeeded : ((origin.sealing active disk).writeAll disk record).result = .ok ()) :
    ∃ capacity, (origin.sealing active disk).writeAll disk record =
      (origin.holding { active with capacity } disk).writeAll disk record := by
  by_cases full : (origin.sealing active disk).needsRotation record.size = true
  · have full' : (origin.holding active disk).needsRotation record.size = true := full
    -- A rotation begins with a close, and makes a buffer of its own.
    refine ⟨active.capacity, ?_⟩
    rw [RollingFile.writeAll, if_pos full, rotate_sealing sent, RollingFile.writeAll, if_pos full']
  · have full' : ¬ (origin.holding { active with capacity := max origin.limits.bufferSize 1 }
        disk).needsRotation record.size = true := full
    -- Opening the file again gives it a fresh buffer, so this capacity may differ from before.
    refine ⟨max origin.limits.bufferSize 1, ?_⟩
    have ensured : (origin.sealing active disk).ensureOpen disk =
        (origin.sealing active disk).reopen disk := rfl
    rw [RollingFile.writeAll, if_neg full] at succeeded ⊢
    rw [RollingFile.writeAll, if_neg full']
    cases reopened : ((origin.sealing active disk).reopen disk).result with
    | error fault => simp [RollingFile.write, ensured, reopened, Except.map] at succeeded
    | ok =>
      have same : (origin.sealing active disk).write disk record =
          (origin.holding { active with capacity := max origin.limits.bufferSize 1 } disk).write
            disk record := by
        rw [RollingFile.write, ensured, stacked.reopen sent reopened]
        rfl
      simp only [same]

/-- A rolling file that was empty at first and has been given some pieces since. It is open, or it
is closed and keeps nothing back; the files are the newest blocks of the pieces. -/
def Given (origin : RollingFile) (directory : Path) (base : String) (pieces : List ByteArray)
    (file : RollingFile) (disk : Disk) : Prop :=
  ∃ active older, Stacked origin active disk older directory base ∧
    (file = origin.holding active disk ∨
      file = origin.sealing active disk ∧ active.kept = .empty) ∧
    stack active disk older =
      ((blocks origin.limits.rotateSize [] pieces).reverse.map joined).take
        (origin.limits.maxFiles + 1)

variable {pieces : List ByteArray} {file : RollingFile}

theorem Given.writeAll (given : Given origin directory base pieces file disk) (record : ByteArray)
    (succeeded : (file.writeAll disk record).result = .ok ()) :
    Given origin directory base (pieces ++ [record]) (file.writeAll disk record).file
      (file.writeAll disk record).disk := by
  obtain ⟨active, older, stacked, shape, contents⟩ := given
  -- Open or closed, the write is one to an open file.
  obtain ⟨capacity, stacked', same⟩ : ∃ capacity,
      Stacked origin { active with capacity } disk older directory base ∧
        file.writeAll disk record =
          (origin.holding { active with capacity } disk).writeAll disk record := by
    rcases shape with rfl | ⟨rfl, sent⟩
    · exact ⟨active.capacity, stacked, rfl⟩
    · obtain ⟨capacity, same⟩ := stacked.writeAll_sealing sent record succeeded
      refine ⟨capacity, stacked.of_changesOnly (.refl _ _) rfl ?_, same⟩
      rw [sent]
      exact Nat.zero_le _
  rw [same] at succeeded ⊢
  -- The record joins the block in progress or begins the next one.
  obtain ⟨block, done, so_far⟩ := List.exists_cons_of_ne_nil
    (List.reverse_ne_nil_iff.mpr (blocks_ne_nil origin.limits.rotateSize [] pieces))
  rw [so_far] at contents
  rw [← writeRecords_singleton] at succeeded ⊢
  obtain ⟨active', disk', older', written, stacked', contents'⟩ :=
    stacked'.writeRecords [record] block done contents succeeded
  rw [written]
  refine ⟨active', older', stacked', .inl rfl, ?_⟩
  rw [contents', reverse_blocks_append so_far]

theorem Given.flush (given : Given origin directory base pieces file disk) :
    Given origin directory base pieces (file.flush disk).file (file.flush disk).disk ∧
      (file.flush disk).file.Clear := by
  obtain ⟨active, older, stacked, shape, contents⟩ := given
  rcases shape with rfl | ⟨rfl, sent⟩
  · obtain ⟨active', disk', flushed, stacked', sent, same⟩ := stacked.flush
    rw [flushed]
    refine ⟨⟨active', older, stacked', .inl rfl, same.trans contents⟩, ?_⟩
    rintro _ ⟨⟩
    exact sent
  · exact ⟨⟨active, older, stacked, .inr ⟨rfl, sent⟩, contents⟩, nofun⟩

theorem Given.close (given : Given origin directory base pieces file disk) :
    Given origin directory base pieces (file.close disk).1 (file.close disk).2 ∧
      (file.close disk).1.Clear := by
  obtain ⟨active, older, stacked, shape, contents⟩ := given
  refine ⟨?_, nofun⟩
  rcases shape with rfl | ⟨rfl, sent⟩
  · obtain ⟨active', disk', closed, stacked', sent, same⟩ := stacked.close
    rw [closed]
    exact ⟨active', older, stacked', .inr ⟨rfl, sent⟩, same.trans contents⟩
  · exact ⟨active, older, stacked, .inr ⟨rfl, sent⟩, contents⟩

/-- When nothing is kept back, the disk has all of it. -/
theorem Given.contentAt? (given : Given origin directory base pieces file disk)
    (clear : file.Clear) (n : Nat) :
    disk.contentAt? (origin.location.slot n) =
      (((blocks origin.limits.rotateSize [] pieces).reverse.map joined).take
        (origin.limits.maxFiles + 1))[n]? := by
  obtain ⟨active, older, stacked, shape, contents⟩ := given
  have sent : active.kept = .empty := by
    rcases shape with rfl | ⟨rfl, sent⟩
    · exact clear active rfl
    · exact sent
  rw [stacked.contentAt? sent, contents]

theorem Given.limits_eq (given : Given origin directory base pieces file disk) :
    file.limits = origin.limits := by
  obtain ⟨active, older, -, rfl | ⟨rfl, -⟩, -⟩ := given <;> rfl

/-- A rolling file that is opened where no file is has been given nothing yet. -/
theorem given_of_openIn {directory name : String} {limits : RollingLimits} {start opened : Disk}
    (opening : openIn directory name limits start = (.ok file, opened)) (sound : start.Sound)
    (fresh : ∀ n, (start.makeDirectories (Location.ofText directory)).2.holds
      ((Location.ofText (joinPath directory name)).slot n) = false) :
    ∃ path base, Given ⟨directory, name, limits, none, 0⟩ path base [] file opened ∧ file.Clear := by
  obtain ⟨reopened, made, there⟩ := exists_of_openIn opening
  have place : (⟨directory, name, limits, none, 0⟩ : RollingFile).location =
      Location.ofText (joinPath directory name) := rfl
  rw [← place] at fresh
  generalize (⟨directory, name, limits, none, 0⟩ : RollingFile) = origin at *
  obtain ⟨active, path, base, held, stacked, initial⟩ := stacked_of_reopen
    ((addsDirectories_makeDirectories (Location.ofText directory) start).sound sound)
    (fun n positive => by rw [backup_eq_slot positive, fresh]) reopened
  rw [made, there] at held
  rw [there] at stacked initial
  -- The first slot is free as well, so the file is new.
  have absent : (start.makeDirectories (Location.ofText directory)).2.contentAt? origin.location =
      none := contentAt?_eq_none (fresh 0)
  rw [absent, Option.getD_none] at initial
  have nothing := congrArg ByteArray.size initial
  rw [OpenFile.whole, ByteArray.size_append] at nothing
  have sent : active.kept = .empty :=
    ByteArray.size_eq_zero_iff.mp (Nat.eq_zero_of_add_eq_zero nothing).2
  refine ⟨path, base, ⟨active, [], stacked, .inl held, ?_⟩, ?_⟩
  · rw [stack, initial]
    simp [blocks, joined]
  · rw [held]
    rintro _ ⟨⟩
    exact sent

end RollingFile

/-! ### Watched streams -/

namespace Watched

open RollingFile

private theorem eq_ok_of_isOk {result : Except StreamFault Unit} (done : result.isOk = true) :
    result = .ok () := by
  cases result with
  | ok => rfl
  | error fault => cases done

/-- A watched stream to a rolling file, while no call on it has failed. Nothing is kept back unless
a write came last. -/
def Fills (origin : RollingFile) (directory : Path) (base : String) (stream : Watched HostStream)
    (host : Host) : Prop :=
  (∀ call ∈ stream.asked, call.done = true) → ∃ file, stream.inner = .rolling file ∧
    Given origin directory base stream.attempts file host.disk ∧
    ((∀ call ∈ stream.asked.getLast?, call.written? = none) → file.Clear)

theorem fills_keeps (origin : RollingFile) (directory : Path) (base : String) :
    ByteStream.KeepsIn (Fills origin directory base) := by
  constructor
  · intro stream host bytes fills done
    rw [asked_writeAll, List.forall_mem_append, List.forall_mem_singleton] at done
    obtain ⟨file, inner, given, -⟩ := fills done.1
    obtain ⟨inner', asked, released⟩ := stream
    obtain rfl : inner' = .rolling file := inner
    refine ⟨(file.writeAll host.disk bytes).file, rfl, ?_, ?_⟩
    · rw [attempts_writeAll]
      apply given.writeAll
      exact eq_ok_of_isOk done.2
    · -- The write came last.
      intro quiet
      have last := quiet (.write bytes _) (by rw [asked_writeAll, List.getLast?_concat]; rfl)
      cases last
  · intro stream host fills done
    rw [asked_flush, List.forall_mem_append, List.forall_mem_singleton] at done
    obtain ⟨file, inner, given, -⟩ := fills done.1
    obtain ⟨inner', asked, released⟩ := stream
    obtain rfl : inner' = .rolling file := inner
    have flushed := given.flush
    refine ⟨(file.flush host.disk).file, rfl, ?_, fun _ => flushed.2⟩
    rw [attempts_flush]
    exact flushed.1
  · intro stream host fills done
    obtain ⟨file, inner, given, -⟩ := fills done
    obtain ⟨inner', asked, released⟩ := stream
    obtain rfl : inner' = .rolling file := inner
    have closed := given.close
    exact ⟨(file.close host.disk).1, rfl, closed.1, fun _ => closed.2⟩

end Watched

end Tapline
