import Tapline.Logger.Opening
import Tapline.Proofs.Disk.Operations
import Tapline.Proofs.Logger.Refusal
import Tapline.Proofs.Sink.Rations
/-!
# Disks that loggers leave

Loggers on one host share its disk. They may be opened, used and given up in any order, and others
may put files on the disk or take them away in between. All that ever happens to the disk is a run
of operations, so every file that is listed on it has its bytes at any time.

## Main result

`HostRun.sound_after`, for every run that begins with a sound disk.

## Proof strategy

That a disk leads to another one by operations is carried from the inside out: from the steps of a
rolling file to the calls on a stream, and from there, as something that every call keeps, to the
calls on a sink and on a logger.
-/

namespace Tapline

open Disk (Reaches)

/-! ### Files -/

theorem OpenFile.reaches_write (file : OpenFile) (disk : Disk) (bytes : ByteArray) :
    disk.Reaches (file.write disk bytes).2 := by
  have flushed : disk.Reaches (file.flush disk).2 := .append disk file.inode file.kept
  unfold write
  split
  · exact .refl disk
  · -- The kept bytes go first if there is no room, and then perhaps the new ones.
    by_cases full : file.room < bytes.size
    · simp only [full, if_true]
      split
      · exact flushed.trans (.append _ _ bytes)
      · exact flushed
    · simp only [full, if_false]
      split
      · exact .append disk file.inode bytes
      · exact .refl disk

namespace RollingFile

variable (file : RollingFile) (disk : Disk)

theorem reaches_reopen : disk.Reaches (file.reopen disk).disk := by
  unfold reopen
  split
  · exact .refl disk
  next inode opened made =>
    split
    · exact .openFile made
    · exact .openFile made

theorem reaches_flush : disk.Reaches (file.flush disk).disk := by
  unfold flush
  split
  · exact .refl disk
  next active _ => exact .append disk active.inode active.kept

theorem reaches_close : disk.Reaches (file.close disk).2 := file.reaches_flush disk

theorem reaches_shiftBackups (n : Nat) : disk.Reaches (file.shiftBackups n disk).2 := by
  -- From the highest number down; a rename that fails ends it.
  induction n generalizing disk with
  | zero => exact .refl disk
  | succ n ih =>
    unfold shiftBackups
    split
    · split
      · exact .refl disk
      next moved renamed => exact (Reaches.rename renamed).trans (ih moved)
    · exact ih disk

theorem reaches_dropOldest {rest : Disk} (dropped : file.dropOldest disk = .ok rest) :
    disk.Reaches rest := by
  unfold dropOldest at dropped
  split at dropped
  · exact .removeFile dropped
  · obtain rfl := Except.ok.inj dropped
    exact .refl disk

theorem reaches_shift : disk.Reaches (file.shift disk).2 := by
  unfold shift
  split
  · -- Without backups the file is emptied where it stands.
    split
    · exact .refl disk
    next emptied => exact .truncate emptied
  · -- The oldest backup goes, the others move up, and the file takes the first place.
    cases dropped : file.dropOldest disk with
    | error fault => exact .refl disk
    | ok rest =>
      have moved := (file.reaches_dropOldest disk dropped).trans
        (file.reaches_shiftBackups rest (file.limits.maxFiles - 1))
      simp only
      generalize file.shiftBackups (file.limits.maxFiles - 1) rest = shifted at moved
      obtain ⟨result, ready⟩ := shifted
      cases result with
      | error fault => exact moved
      | ok =>
        simp only
        split
        · exact moved
        next renamed => exact moved.trans (.rename renamed)

theorem reaches_rotate : disk.Reaches (file.rotate disk).disk := by
  have shifted := (file.reaches_close disk).trans
    ((file.close disk).1.reaches_shift (file.close disk).2)
  unfold rotate
  simp only
  generalize (file.close disk).1.shift (file.close disk).2 = step at shifted
  obtain ⟨result, ready⟩ := step
  cases result with
  | error fault => exact shifted
  | ok => exact shifted.trans (reaches_reopen _ ready)

theorem reaches_write (bytes : ByteArray) : disk.Reaches (file.write disk bytes).disk := by
  have opened : disk.Reaches (file.ensureOpen disk).disk := by
    unfold ensureOpen
    split
    · exact .refl disk
    · exact file.reaches_reopen disk
  unfold write
  simp only
  split
  · exact opened
  · exact opened
  · exact opened.trans (OpenFile.reaches_write _ _ bytes)

theorem reaches_writeAll (record : ByteArray) : disk.Reaches (file.writeAll disk record).disk := by
  have ready : disk.Reaches (if file.needsRotation record.size then file.rotate disk
      else (⟨.ok (), file, disk, []⟩ : RollingStep Unit)).disk := by
    split
    · exact file.reaches_rotate disk
    · exact .refl disk
  unfold writeAll
  simp only
  split
  · exact ready
  · exact ready.trans (reaches_write _ _ record)

theorem reaches_openIn (directory name : String) (limits : RollingLimits) :
    disk.Reaches (openIn directory name limits disk).2 := by
  have made := Reaches.makeDirectories disk (Location.ofText directory)
  unfold openIn
  split
  · exact .refl disk
  · generalize disk.makeDirectories (Location.ofText directory) = step at made
    obtain ⟨result, ready⟩ := step
    cases result with
    | error fault => exact made
    | ok => exact made.trans (reaches_reopen _ ready)

end RollingFile

/-! ### Streams, sinks and loggers -/

/-- Every call on a stream of a host leads from disk to disk by operations. -/
theorem HostStream.keeps_reaches (start : Disk) :
    ByteStream.KeepsIn fun (_ : HostStream) (host : Host) => start.Reaches host.disk := by
  constructor
  · intro stream host bytes reaches
    cases stream with
    | rolling file => exact reaches.trans (file.reaches_writeAll host.disk bytes)
    | crashing => cases empty : bytes.isEmpty <;> simpa [ByteStream.writeAll, writeAll, empty]
    | memory | terminal | rejecting | scripted => exact reaches
  · intro stream host reaches
    cases stream with
    | rolling file => exact reaches.trans (file.reaches_flush host.disk)
    | memory | terminal | rejecting | crashing | scripted => exact reaches
  · intro stream host reaches
    cases stream with
    | rolling file => exact reaches.trans (file.reaches_close host.disk)
    | memory | terminal | rejecting | crashing | scripted => exact reaches

section

variable {δ : Type u} {ε : Type v} {Q : ε → Prop}

theorem Logger.eachSink_keeps {call : Sink δ → ε → SinkStep δ ε}
    (each : ∀ sink around, Q around → Q (call sink around).around) (sinks : List (Sink δ))
    {around : ε} (kept : Q around) : Q (Logger.eachSink call sinks around).around := by
  induction sinks generalizing around with
  | nil => exact kept
  | cons sink rest ih => exact ih (each sink around kept)

variable [ByteStream δ ε] (keeps : ByteStream.KeepsIn fun (_ : δ) (around : ε) => Q around)

include keeps

theorem Sink.handle_keeps (sink : Sink δ) {around : ε} (kept : Q around) (event : SinkEvent) :
    Q (sink.handle around event).around := by
  have begun : Q (SinkHistory.start sink around).around := kept
  exact SinkHistory.keeps_run keeps begun [event]

theorem Sink.drop_keeps (sink : Sink δ) {around : ε} (kept : Q around) :
    Q (sink.drop around).around := by
  have closed : Q (sink.close around).around := sink.handle_keeps keeps kept .close
  unfold drop
  simp only
  split
  · -- A direct sink gives its stream up; a flusher has done so on closing.
    exact keeps.release _ _ closed
  · exact closed

theorem Sink.ofStreamIn_keeps (template : Template) (stream : δ) (delivery : Delivery) {around : ε}
    (kept : Q around) : Q (ofStreamIn template stream delivery around).2 := by
  cases delivery with
  | direct => exact kept
  | batched interval capacity =>
    by_cases fits : capacity ≤ Flusher.greatestCapacity
    · simpa only [ofStreamIn, Flusher.start, if_pos fits] using kept
    · -- The stream is given up, since no flusher can be started.
      simpa only [ofStreamIn, Flusher.start, if_neg fits] using keeps.release stream around kept

namespace Logger

variable (logger : Logger δ) {around : ε} (kept : Q around)

include kept

theorem handle_keeps (event : LoggerEvent) : Q (logger.handle around event).around := by
  cases event with
  | print bag =>
    refine eachSink_keeps (fun sink around kept => ?_) logger.sinks kept
    exact sink.handle_keeps keeps kept (.write bag)
  | flush =>
    refine eachSink_keeps (fun sink around kept => ?_) logger.sinks kept
    exact sink.handle_keeps keeps kept .flush
  | close =>
    refine eachSink_keeps (fun sink around kept => ?_) logger.sinks kept
    exact sink.handle_keeps keeps kept .close
  | move place which =>
    rw [handle, moveAt]
    split
    · exact kept
    next sink _ => exact sink.handle_keeps keeps kept (.move which)

theorem drop_keeps : Q (logger.drop around).around :=
  eachSink_keeps (fun sink _ kept => sink.drop_keeps keeps kept) logger.sinks kept

end Logger

end

namespace Logger

theorem reaches_addFileSink (logger : Logger HostStream) (settings : Settings)
    (template : Template) (host : Host) :
    host.disk.Reaches (addFileSink logger settings template host).host.disk := by
  have opened := RollingFile.reaches_openIn host.disk settings.directory settings.fileName
    settings.rollingLimits
  unfold addFileSink
  generalize RollingFile.openIn settings.directory settings.fileName settings.rollingLimits
    host.disk = step at opened
  rcases step with ⟨⟨fault | cause⟩ | file, disk⟩
  · exact opened
  · exact opened
  · -- The file is open; a flusher that cannot be started closes it again.
    have ready : host.disk.Reaches { host with disk }.disk := opened
    have keeps := HostStream.keeps_reaches host.disk
    exact Sink.ofStreamIn_keeps keeps template (.rolling file) settings.delivery ready

theorem reaches_ofSettings (settings : Settings) (registry : Registry) (host : Host) :
    host.disk.Reaches (ofSettings settings registry host).host.disk := by
  rcases ofSettings_cases settings registry host with
    ⟨-, cause, refused⟩ |
    ⟨-, terminals, -, ⟨-, unasked⟩ | ⟨-, template, -, asked⟩⟩
  · rw [refused]
  · rw [unasked]
  · rw [asked]
    exact reaches_addFileSink ⟨terminals⟩ settings template host

end Logger

/-! ### Runs -/

/-- What happens on a host. -/
inductive HostEvent where
  /-- A logger is opened, unless its settings are refused. -/
  | opening (settings : Settings) (registry : Registry)
  /-- The logger at a place is used. -/
  | call (place : Nat) (event : LoggerEvent)
  /-- The logger at a place is given up. -/
  | givingUp (place : Nat)
  /-- Somebody else changes the disk. -/
  | outside (operation : DiskOperation)

/-- A host and the loggers that have been opened on it. -/
structure HostRun where
  loggers : List (Logger HostStream)
  host : Host

namespace HostRun

def next (run : HostRun) : HostEvent → HostRun
  | .opening settings registry =>
    let opening := Logger.ofSettings settings registry run.host
    match opening.result with
    | .ok logger => ⟨run.loggers ++ [logger], opening.host⟩
    | .error _ => ⟨run.loggers, opening.host⟩
  | .call place event =>
    match run.loggers[place]? with
    | none => run
    | some logger =>
      let step := logger.handle run.host event
      ⟨run.loggers.set place step.logger, step.around⟩
  | .givingUp place =>
    match run.loggers[place]? with
    | none => run
    | some logger => ⟨run.loggers.eraseIdx place, (logger.drop run.host).around⟩
  | .outside operation =>
    { run with host := { run.host with disk := run.host.disk.perform operation } }

def after (run : HostRun) (events : List HostEvent) : HostRun := events.foldl next run

theorem reaches_next (run : HostRun) (event : HostEvent) :
    run.host.disk.Reaches (run.next event).host.disk := by
  have keeps := HostStream.keeps_reaches run.host.disk
  have now := Reaches.refl run.host.disk
  cases event with
  | opening settings registry =>
    have opened := Logger.reaches_ofSettings settings registry run.host
    simp only [next]
    split
    · exact opened
    · exact opened
  | call place event =>
    simp only [next]
    split
    · exact now
    next logger _ => exact logger.handle_keeps keeps now event
  | givingUp place =>
    simp only [next]
    split
    · exact now
    next logger _ => exact logger.drop_keeps keeps now
  | outside operation => exact .perform run.host.disk operation

theorem reaches_after (run : HostRun) (events : List HostEvent) :
    run.host.disk.Reaches (run.after events).host.disk := by
  induction events generalizing run with
  | nil => exact .refl run.host.disk
  | cons event rest ih => exact (run.reaches_next event).trans (ih (run.next event))

/-- **Loggers leave a sound disk**, whatever they are used for and whatever others do. -/
theorem sound_after (run : HostRun) (sound : run.host.disk.Sound) (events : List HostEvent) :
    (run.after events).host.disk.Sound :=
  (run.reaches_after events).sound sound

end HostRun

end Tapline
