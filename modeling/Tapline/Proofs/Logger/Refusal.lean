import Mathlib
import Tapline.Pipeline.Draft
import Tapline.Proofs.Logger.Files
/-!
# Settings that are refused

Settings that cannot work are refused, and so is a registry that claims the reserved character, as
soon as one sink is asked for. All of that is found out before the first call on the disk, so a
logger that is refused leaves no directory and no file behind. A draft that prints already refuses
another logger without looking at its settings. It is given up then with the logger that it has,
and a logger that keeps nothing back leaves no trace on the disk when it is given up.

## Main result

`refused_without_trace`, for all settings, registries, hosts and drafts.

## Proof strategy

Opening a logger is followed guard by guard, and a guard that refuses answers with the host it was
given (`Logger.ofSettings_cases`). What giving up a logger does to the disk is told from the inside
out: for a rolling file, its stream, its flusher, its sink and its logger.
-/

namespace Tapline

/-! ### What is refused -/

namespace Settings

/-- Whether no logger is opened, whatever is on the disk. -/
def Rejected (settings : Settings) (registry : Registry) : Prop :=
  (settings.directory ≠ "" ∧ settings.fileName = "") ∨
    (settings.asyncFlush = true ∧ settings.flushMillis = 0) ∨
    ((settings.stdout = true ∨ settings.directory ≠ "") ∧ registry.contains reservedKey = true)

theorem fileEnabled_iff (settings : Settings) :
    settings.fileEnabled = true ↔ settings.directory ≠ "" := by
  simp [fileEnabled]

theorem validate_eq_ok_iff (settings : Settings) :
    settings.validate = .ok () ↔ ¬ (settings.directory ≠ "" ∧ settings.fileName = "") ∧
      ¬ (settings.asyncFlush = true ∧ settings.flushMillis = 0) := by
  have nameless : (settings.fileEnabled = true ∧ settings.fileName.isEmpty = true) ↔
      (settings.directory ≠ "" ∧ settings.fileName = "") := by
    rw [fileEnabled_iff, String.isEmpty_iff]
  unfold validate
  split
  next missing => simp [nameless.mp missing]
  next named =>
    rw [nameless] at named
    split
    next zero => simp [zero]
    next timed => simp only [named, timed, not_false_eq_true, and_self]

theorem rejected_of_validate {settings : Settings} {cause : InvalidSettings}
    (invalid : settings.validate = .error cause) (registry : Registry) :
    settings.Rejected registry := by
  have unfit := mt (validate_eq_ok_iff settings).mpr (by rw [invalid]; nofun)
  rw [not_and_or, not_not, not_not] at unfit
  rcases unfit with nameless | timeless
  · exact .inl nameless
  · exact .inr (.inl timeless)

end Settings

theorem Template.claimed_of_compile {source : String} {registry : Registry} {cause : SetupError}
    (failed : compile source registry = .error cause) : registry.contains reservedKey = true := by
  by_contra free
  rw [compile, if_neg free] at failed
  cases failed

theorem Template.free_of_compile {source : String} {registry : Registry} {template : Template}
    (made : compile source registry = .ok template) : ¬ registry.contains reservedKey = true := by
  intro claimed
  rw [compile, if_pos claimed] at made
  cases made

/-! ### Opening, guard by guard -/

namespace Logger

variable {settings : Settings} {registry : Registry}

theorem claimed_of_terminalSinks {cause : PipelineError}
    (failed : terminalSinks settings registry = .error cause) :
    settings.stdout = true ∧ registry.contains reservedKey = true ∧
      ∃ refusal, cause = .setup refusal := by
  unfold terminalSinks at failed
  split at failed
  next printing =>
    split at failed
    next refusal compiled =>
      have same := (Except.error.inj failed).symm
      exact ⟨printing, Template.claimed_of_compile compiled, refusal, same⟩
    · cases failed
  · cases failed

/-- A logger is refused with the host as it was, or nothing but its file can be in the way. -/
theorem ofSettings_cases (settings : Settings) (registry : Registry) (host : Host) :
    (settings.Rejected registry ∧
      ∃ cause, ofSettings settings registry host = ⟨.error (.setup cause), host, []⟩) ∨
    (¬ settings.Rejected registry ∧ ∃ terminals,
      terminalSinks settings registry = .ok terminals ∧
      ((settings.directory = "" ∧ ofSettings settings registry host = ⟨.ok ⟨terminals⟩, host, []⟩) ∨
        (settings.directory ≠ "" ∧ ∃ template,
          Template.compile settings.filePattern registry = .ok template ∧
            ofSettings settings registry host =
              addFileSink ⟨terminals⟩ settings template host))) := by
  -- The guards come in their order: the settings, the terminal's template, that of the file.
  cases valid : settings.validate with
  | error invalid =>
    exact .inl ⟨Settings.rejected_of_validate valid registry, .invalid invalid,
      by simp only [ofSettings, valid]⟩
  | ok =>
    obtain ⟨named, timed⟩ := (Settings.validate_eq_ok_iff settings).mp valid
    cases others : terminalSinks settings registry with
    | error cause =>
      obtain ⟨printing, claimed, refusal, rfl⟩ := claimed_of_terminalSinks others
      exact .inl ⟨.inr (.inr ⟨.inl printing, claimed⟩), refusal,
        by simp only [ofSettings, valid, others]⟩
    | ok terminals =>
      cases enabled : settings.fileEnabled with
      | true =>
        have asked := settings.fileEnabled_iff.mp enabled
        cases compiled : Template.compile settings.filePattern registry with
        | error cause =>
          refine .inl ⟨.inr (.inr ⟨.inr asked, Template.claimed_of_compile compiled⟩), cause, ?_⟩
          simp only [ofSettings, valid, others, enabled, if_true, compiled]
        | ok template =>
          refine .inr ⟨?_, terminals, rfl, .inr ⟨asked, template, rfl, ?_⟩⟩
          · rintro (nameless | timeless | ⟨-, claimed⟩)
            · exact named nameless
            · exact timed timeless
            · exact Template.free_of_compile compiled claimed
          · simp only [ofSettings, valid, others, enabled, if_true, compiled]
      | false =>
        have unasked : settings.directory = "" := by
          by_contra asked
          rw [settings.fileEnabled_iff.mpr asked] at enabled
          cases enabled
        refine .inr ⟨?_, terminals, rfl, .inl ⟨unasked, ?_⟩⟩
        · rintro (nameless | timeless | ⟨printing | asked, claimed⟩)
          · exact named nameless
          · exact timed timeless
          · -- The terminal's own template has been compiled with this registry.
            rcases terminalSinks_cases others with ⟨silent, -⟩ | ⟨-, template, compiled, -⟩
            · rw [printing] at silent
              cases silent
            · exact Template.free_of_compile compiled claimed
          · exact asked unasked
        · simp only [ofSettings, valid, others, enabled, Bool.false_eq_true, if_false]

/-- The disk refuses with errors of its own sort. -/
theorem addFileSink_not_setup (logger : Logger HostStream) (settings : Settings)
    (template : Template) (host : Host) (cause : SetupError) :
    (addFileSink logger settings template host).result ≠ .error (.setup cause) := by
  unfold addFileSink
  split <;> simp

end Logger

/-! ### Giving up what keeps nothing back -/

theorem OpenFile.write_empty (file : OpenFile) (disk : Disk) :
    file.write disk .empty = (file, disk) := by
  have kept : file.kept ++ ByteArray.empty = file.kept := ByteArray.append_empty
  have short : ¬ file.room < (ByteArray.empty).size := Nat.not_lt_zero _
  unfold write
  simp only [if_neg short, kept, RollingFile.append_empty]
  split
  · rfl
  · split <;> rfl

namespace RollingFile

variable {file : RollingFile}

theorem Clear.flush (clear : file.Clear) (disk : Disk) :
    file.flush disk = ⟨.ok (), file, disk, []⟩ := by
  obtain ⟨directory, name, limits, active, written⟩ := file
  cases active with
  | none => rfl
  | some active =>
    obtain ⟨inode, kept, capacity⟩ := active
    obtain rfl : kept = .empty := clear _ rfl
    simp only [RollingFile.flush, OpenFile.flush, append_empty]

theorem Clear.close (clear : file.Clear) (disk : Disk) :
    (file.close disk).2 = disk ∧ (file.close disk).1.Clear := by
  rw [RollingFile.close, clear.flush disk]
  refine ⟨rfl, fun active opened => ?_⟩
  cases opened

/-- No bytes make no call on an open file, unless it has outgrown its limit. -/
theorem writeAll_empty {active : OpenFile} (opened : file.active = some active)
    (fits : file.needsRotation 0 = false) (disk : Disk) :
    file.writeAll disk .empty = ⟨.ok (), file, disk, []⟩ := by
  have fits' : ¬ file.needsRotation (ByteArray.empty).size = true := Bool.eq_false_iff.mp fits
  have ready : file.ensureOpen disk = ⟨.ok (), file, disk, []⟩ := by
    rw [ensureOpen, opened]
    rfl
  have same :
      { file with active := some active, written := file.written + (ByteArray.empty).size } =
        file := by
    rw [← opened]
    rfl
  simp only [writeAll, if_neg fits', RollingFile.write, ready, opened, OpenFile.write_empty, same]
  rfl

end RollingFile

namespace HostStream

/-- Nothing is kept back from the disk. -/
def Clear : HostStream → Prop
  | rolling file => file.Clear
  | _ => True

/-- A write of no bytes leaves the disk alone. -/
def Fits : HostStream → Prop
  | rolling file => (∃ active, file.active = some active) ∧ file.needsRotation 0 = false
  | _ => True

variable {stream : HostStream}

theorem Clear.flush (clear : stream.Clear) (host : Host) :
    (ByteStream.flush stream host).around.disk = host.disk ∧
      (ByteStream.flush stream host).stream.Clear := by
  cases stream with
  | rolling file =>
    have answer : file.flush host.disk = ⟨.ok (), file, host.disk, []⟩ :=
      RollingFile.Clear.flush clear host.disk
    change (file.flush host.disk).disk = _ ∧ (file.flush host.disk).file.Clear
    rw [answer]
    exact ⟨rfl, clear⟩
  | memory | terminal | rejecting | crashing | scripted => exact ⟨rfl, trivial⟩

theorem Clear.release (clear : stream.Clear) (host : Host) :
    (ByteStream.release stream host).2.disk = host.disk ∧
      (ByteStream.release stream host).1.Clear := by
  cases stream with
  | rolling file => exact RollingFile.Clear.close clear host.disk
  | memory | terminal | rejecting | crashing | scripted => exact ⟨rfl, trivial⟩

theorem Clear.writeAll_empty (clear : stream.Clear) (fits : stream.Fits) (host : Host) :
    (ByteStream.writeAll stream host .empty).around.disk = host.disk ∧
      (ByteStream.writeAll stream host .empty).stream.Clear := by
  cases stream with
  | rolling file =>
    obtain ⟨⟨active, opened⟩, small⟩ := fits
    have answer := RollingFile.writeAll_empty opened small host.disk
    change (file.writeAll host.disk .empty).disk = _ ∧ (file.writeAll host.disk .empty).file.Clear
    rw [answer]
    exact ⟨rfl, clear⟩
  | memory | terminal | rejecting | crashing | scripted => exact ⟨rfl, trivial⟩

end HostStream

/-- Nothing is on its way to the stream of a flusher, and its last batch, which is empty, will leave
the disk alone. -/
structure Flusher.AtRest (flusher : Flusher HostStream) : Prop where
  queue : flusher.queue = []
  pending : flusher.pending = .empty
  clear : flusher.stream.Clear
  fits : flusher.alive = true → flusher.stream.Fits

/-- Nothing is kept back by a sink; a closed one has passed everything on to its flusher. -/
def Sink.AtRest (sink : Sink HostStream) : Prop :=
  match sink.target with
  | .direct stream => stream.Clear
  | .batched flusher => sink.closed = false → flusher.AtRest

def Logger.AtRest (logger : Logger HostStream) : Prop := ∀ sink ∈ logger.sinks, sink.AtRest

theorem Flusher.AtRest.drain {flusher : Flusher HostStream} (rest : flusher.AtRest)
    (living : flusher.alive = true) (host : Host) (onLoss : Nat → IOFault → List Notice) :
    (flusher.drain host onLoss).around.disk = host.disk ∧
      (flusher.drain host onLoss).flusher.stream.Clear := by
  obtain ⟨written, clear⟩ := rest.clear.writeAll_empty (rest.fits living) host
  -- The batch is empty, and is flushed if the stream takes it.
  have batch : (writeBatch flusher.stream host flusher.pending).around.disk = host.disk ∧
      (writeBatch flusher.stream host flusher.pending).stream.Clear := by
    rw [rest.pending, writeBatch]
    split
    · exact ⟨written, clear⟩
    · obtain ⟨flushed, clear'⟩ :=
        clear.flush (ByteStream.writeAll flusher.stream host .empty).around
      exact ⟨flushed.trans written, clear'⟩
  unfold Flusher.drain
  generalize writeBatch flusher.stream host flusher.pending = step at *
  obtain ⟨untouched, clear⟩ := batch
  simp only
  split
  · exact ⟨untouched, clear⟩
  · exact ⟨untouched, clear⟩
  · obtain ⟨released, clear'⟩ := clear.release step.around
    exact ⟨released.trans untouched, clear'⟩

theorem Flusher.AtRest.finish {flusher : Flusher HostStream} (rest : flusher.AtRest) (host : Host) :
    (flusher.finish host).around.disk = host.disk := by
  have caught : flusher.catchUp host = ⟨.ok (), flusher, host, []⟩ := by
    rw [Flusher.catchUp, rest.queue]
    rfl
  unfold Flusher.finish
  simp only [caught]
  cases living : flusher.alive with
  | false => rfl
  | true =>
    simp only [if_true]
    obtain ⟨drained, clear⟩ :=
      rest.drain living host fun bytes fault => [.finalBatchLost bytes fault]
    split
    · exact (clear.release _).1.trans drained
    · exact drained

theorem Sink.AtRest.drop {sink : Sink HostStream} (rest : sink.AtRest) (host : Host) :
    (sink.drop host).around.disk = host.disk := by
  obtain ⟨template, target, closed⟩ := sink
  cases target with
  | direct stream =>
    have clear : stream.Clear := rest
    cases closed with
    | true => exact (clear.release host).1
    | false =>
      obtain ⟨flushed, clear'⟩ := clear.flush host
      have closing : (Sink.close ⟨template, .direct stream, false⟩ host).sink =
          ⟨template, .direct (ByteStream.flush stream host).stream, true⟩ := sink_ofStream _ _
      have left : (Sink.close ⟨template, .direct stream, false⟩ host).around =
          (ByteStream.flush stream host).around := around_ofStream _ _
      simp only [Sink.drop, closing, left]
      exact (clear'.release _).1.trans flushed
  | batched flusher =>
    cases closed with
    | true => rfl
    | false =>
      have rest' : flusher.AtRest := rest rfl
      exact rest'.finish host

theorem Logger.AtRest.drop {logger : Logger HostStream} (rest : logger.AtRest) (host : Host) :
    (logger.drop host).around.disk = host.disk := by
  obtain ⟨sinks⟩ := logger
  -- Each sink finds the disk as the ones before it leave it, which is as it was.
  change (Logger.eachSink Sink.drop sinks host).around.disk = host.disk
  induction sinks generalizing host with
  | nil => rfl
  | cons sink others ih =>
    have first := (rest sink List.mem_cons_self).drop host
    have later := ih (sink.drop host).around
      fun other member => rest other (List.mem_cons_of_mem _ member)
    exact later.trans first

theorem Draft.drop_atRest {υ : Type} (draft : Draft HostStream Host υ)
    (world : World HostStream Host υ)
    (rest : ∀ ref, draft.logger = some ref → (world.logger ref).AtRest) :
    (draft.drop world).around.disk = world.around.disk := by
  unfold Pipeline.drop
  cases own : draft.logger with
  | none => rfl
  | some ref => exact (rest ref own).drop world.around

/-! ### What is opened -/

/-- Where the lines of a logger can go. -/
inductive Output where
  | terminal
  | logFile
deriving DecidableEq, Repr

namespace Settings

/-- The outputs that are asked for, in their order. -/
def outputs (settings : Settings) : List Output :=
  (if settings.stdout then [.terminal] else []) ++
    if settings.directory = "" then [] else [.logFile]

/-- A sink that is opened for an output. -/
def Opens (settings : Settings) (registry : Registry) : Output → Sink HostStream → Prop
  | .terminal, sink =>
    Template.compile settings.stdoutPattern registry = .ok sink.template ∧
      sink.target = .direct .terminal ∧ sink.closed = false
  | .logFile, sink =>
    Template.compile settings.filePattern registry = .ok sink.template ∧
      (∃ file : RollingFile, sink.stream = .rolling file ∧ file.path = settings.filePath ∧
        file.limits = settings.rollingLimits) ∧
      sink.isBuffered = settings.asyncFlush ∧ sink.closed = false

end Settings

/-- A file that has just been opened is where it was asked for, and keeps nothing back. -/
theorem RollingFile.shape_of_openIn {directory name : String} {limits : RollingLimits}
    {start opened : Disk} {file : RollingFile}
    (opening : openIn directory name limits start = (.ok file, opened)) :
    file.path = joinPath directory name ∧ file.limits = limits ∧
      file.Clear := by
  obtain ⟨succeeded, same, -⟩ := exists_of_openIn opening
  obtain ⟨inode, disk, -, reopened⟩ := exists_of_reopen succeeded
  rw [reopened] at same
  subst same
  refine ⟨rfl, rfl, fun active opened => ?_⟩
  obtain rfl := Option.some.inj opened
  rfl

/-- A sink has nothing to pass on when it has just been opened, unless it is to write in the
background to a file that has outgrown its limit already. -/
theorem Sink.atRest_ofStreamIn {stream : HostStream} (clear : stream.Clear) {delivery : Delivery}
    (possible : delivery.Possible) (fits : delivery = .direct ∨ stream.Fits) (template : Template)
    (host : Host) : (Sink.ofStreamIn template stream delivery host).1.AtRest := by
  cases delivery with
  | direct => exact clear
  | batched interval capacity =>
    have fits' : stream.Fits := fits.resolve_left nofun
    simp only [ofStreamIn, Flusher.start, if_pos possible.2]
    exact fun _ => ⟨rfl, rfl, clear, fun _ => fits'⟩

theorem Sink.shape_ofStreamIn (settings : Settings) (template : Template) (stream : HostStream)
    (host : Host) :
    let sink := (Sink.ofStreamIn template stream settings.delivery host).1
    sink.template = template ∧ sink.isBuffered = settings.asyncFlush ∧ sink.closed = false := by
  intro sink
  simp only [sink, Settings.delivery]
  cases settings.asyncFlush with
  | true => exact ⟨rfl, rfl, rfl⟩
  | false => exact ⟨rfl, rfl, rfl⟩

namespace Logger

variable {settings : Settings} {registry : Registry}

theorem opens_terminals {terminals : List (Sink HostStream)}
    (made : terminalSinks settings registry = .ok terminals) :
    List.Forall₂ (settings.Opens registry) (if settings.stdout then [.terminal] else [])
      terminals := by
  rcases terminalSinks_cases made with ⟨silent, rfl⟩ | ⟨printing, template, compiled, rfl⟩
  · rw [silent]
    exact .nil
  · rw [printing]
    exact .cons ⟨compiled, rfl, rfl⟩ .nil

theorem atRest_terminals {terminals : List (Sink HostStream)}
    (made : terminalSinks settings registry = .ok terminals) :
    ∀ sink ∈ terminals, sink.AtRest := by
  rcases terminalSinks_cases made with ⟨-, rfl⟩ | ⟨-, template, -, rfl⟩
  · exact nofun
  · intro sink member
    obtain rfl := List.mem_singleton.mp member
    trivial

theorem opens_of_addFileSink {template : Template} {terminals : List (Sink HostStream)}
    {host : Host} {logger : Logger HostStream}
    (compiled : Template.compile settings.filePattern registry = .ok template)
    (opening : (addFileSink ⟨terminals⟩ settings template host).result = .ok logger) :
    ∃ sink, logger.sinks = terminals ++ [sink] ∧ settings.Opens registry .logFile sink ∧
      ((settings.asyncFlush = false ∨ sink.stream.Fits) → sink.AtRest) := by
  unfold addFileSink at opening
  split at opening
  · cases opening
  · cases opening
  next file disk made =>
    obtain rfl := Except.ok.inj opening
    obtain ⟨path, limits, clear⟩ := RollingFile.shape_of_openIn made
    obtain ⟨same, buffered, unclosed⟩ :=
      Sink.shape_ofStreamIn settings template (.rolling file) { host with disk }
    have possible := Settings.possible_delivery (RollingFile.bufferSize_le_of_openIn made)
    obtain ⟨stream, -⟩ :=
      Sink.stream_ofStreamIn template (HostStream.rolling file) possible { host with disk }
    refine ⟨_, rfl, ⟨?_, ⟨file, stream, path, limits⟩, buffered, unclosed⟩, fun fits => ?_⟩
    · rw [same]
      exact compiled
    · have keepsNothing : (HostStream.rolling file).Clear := clear
      apply Sink.atRest_ofStreamIn keepsNothing possible
      refine fits.imp (fun direct => ?_) fun small => ?_
      · rw [Settings.delivery, direct]
        rfl
      · rw [stream] at small
        exact small

/-- An opened logger has a sink for each output that is asked for, with nothing to pass on. -/
theorem opens_ofSettings {host : Host} {logger : Logger HostStream}
    (opening : (ofSettings settings registry host).result = .ok logger) :
    List.Forall₂ (settings.Opens registry) settings.outputs logger.sinks ∧
      ((settings.asyncFlush = false ∨ ∀ sink ∈ logger.sinks, sink.stream.Fits) →
        logger.AtRest) := by
  rcases ofSettings_cases settings registry host with
    ⟨-, cause, refused⟩ |
    ⟨-, terminals, made, ⟨unasked, opened⟩ | ⟨asked, template, compiled, opened⟩⟩
  · rw [refused] at opening
    cases opening
  · rw [opened] at opening
    obtain rfl := Except.ok.inj opening
    rw [Settings.outputs, if_pos unasked, List.append_nil]
    exact ⟨opens_terminals made, fun _ => atRest_terminals made⟩
  · rw [opened] at opening
    obtain ⟨sink, sinks, file, rest⟩ := opens_of_addFileSink compiled opening
    rw [Settings.outputs, if_neg asked, AtRest, sinks]
    refine ⟨List.rel_append (opens_terminals made) (.cons file .nil), fun fits other member => ?_⟩
    rcases List.mem_append.mp member with among | last
    · exact atRest_terminals made other among
    · obtain rfl := List.mem_singleton.mp last
      exact rest (fits.imp_right fun small => small other member)

end Logger

/-! ### The main result -/

/-- **A refused logger leaves no trace.** A logger is refused for its settings or for its registry
exactly when the settings cannot work, or when the registry claims the reserved character and there
is a sink to compile a template for. In that case the host is as it was. A logger that is opened
has one sink for each output, the terminal's first, and the file's is buffered exactly when flushing
in the background is asked for; it has nothing to pass on, unless it is to write in the background
to a file that has outgrown its limit already. A draft that prints refuses any settings with any
registry, and is given up; nothing changes on the disk if its own logger has nothing to pass on. -/
theorem refused_without_trace {υ : Type} (settings : Settings) (registry : Registry) :
    (∀ host : Host,
      let opening := Logger.ofSettings settings registry host
      ((∃ cause, opening.result = .error (.setup cause)) ↔ settings.Rejected registry) ∧
      (settings.Rejected registry → opening.host = host ∧ opening.notices = []) ∧
      ∀ logger, opening.result = .ok logger →
        List.Forall₂ (settings.Opens registry) settings.outputs logger.sinks ∧
        ((settings.asyncFlush = false ∨ ∀ sink ∈ logger.sinks, sink.stream.Fits) →
          logger.AtRest)) ∧
    ∀ (draft : Draft HostStream Host υ) (world : World HostStream Host υ), draft.prints = true →
      let again := draft.printByOpening settings registry world
      again = (.error (.setup .duplicateLogHook), draft.drop world) ∧
      ((∀ ref, draft.logger = some ref → (world.logger ref).AtRest) →
        again.2.around.disk = world.around.disk) := by
  refine ⟨fun host => ?_, fun draft world printing => ?_⟩
  · intro opening
    refine ⟨?_, ?_, fun logger success => Logger.opens_ofSettings success⟩
    · rcases Logger.ofSettings_cases settings registry host with
        ⟨rejected, cause, refused⟩ |
        ⟨accepted, terminals, -, ⟨-, opened⟩ | ⟨-, template, -, opened⟩⟩
      · simp only [opening, refused, rejected, iff_true]
        exact ⟨cause, rfl⟩
      · simp [opening, opened, accepted]
      · simp only [opening, opened, accepted, iff_false, not_exists]
        exact Logger.addFileSink_not_setup _ settings template host
    · intro rejected
      rcases Logger.ofSettings_cases settings registry host with
        ⟨-, cause, refused⟩ | ⟨accepted, -⟩
      · rw [show opening = _ from refused]
        exact ⟨rfl, rfl⟩
      · exact absurd rejected accepted
  · intro again
    have answer : again = (.error (.setup .duplicateLogHook), draft.drop world) := if_pos printing
    refine ⟨answer, fun rest => ?_⟩
    rw [answer]
    exact draft.drop_atRest world rest

/-- Two outputs are opened for a draft. Settings without an interval are refused by themselves, and
by the draft for another reason; the directory and the file of the first logger are left. -/
theorem two_sinks_then_a_refusal :
    let settings := { fourByteSettings true with stdout := true, stdoutPattern := "%k" }
    let untimed := { settings with flushMillis := 0 }
    let start : World HostStream Host Unit := .fresh default (.counting ⟨0, 0⟩) ()
    let empty : Draft HostStream Host Unit := .empty
    let first := empty.printByOpening settings keyRegistry start
    (Logger.ofSettings untimed keyRegistry default).host = default ∧
    ∃ draft logger, first.1 = .ok draft ∧
      (Logger.ofSettings settings keyRegistry default).result = .ok logger ∧
      List.Forall₂ (settings.Opens keyRegistry) [.terminal, .logFile] logger.sinks ∧
      let again := draft.printByOpening untimed keyRegistry first.2
      again.1 = .error (.setup .duplicateLogHook) ∧
        again.2.around.disk = ⟨[(["d", "f"], .file 0), (["d"], .directory)], #[.empty]⟩ := by
  intro settings untimed start empty first
  let logger : Logger HostStream :=
    ⟨[⟨keyTemplate, .direct .terminal, false⟩,
      ⟨keyTemplate, .batched ⟨.rolling fourByteFile, 100, [], .empty, true⟩, false⟩]⟩
  let left : Host := ⟨⟨[(["d", "f"], .file 0), (["d"], .directory)], #[.empty]⟩, .empty⟩
  have opening : Logger.ofSettings settings keyRegistry default =
      ⟨.ok logger, left, [.opened settings.filePath true]⟩ := by cbv
  let draft : Draft HostStream Host Unit := ⟨⟨.empty, [], [.log], some ⟨0⟩⟩, true⟩
  have ready : first = (.ok draft, { start with
      around := left, loggers := [logger], notices := [.opened settings.filePath true] }) := by
    simp only [first, Draft.printByOpening, World.openLogger, start, World.fresh, opening]
    rfl
  have untimely : untimed.Rejected keyRegistry := .inr (.inl ⟨rfl, rfl⟩)
  obtain ⟨refuses, again⟩ :
      (∀ host : Host, _) ∧ ∀ (draft : Draft HostStream Host Unit) (world), _ :=
    refused_without_trace untimed keyRegistry
  obtain ⟨opens, -⟩ : (∀ host : Host, _) ∧ ∀ (draft : Draft HostStream Host Unit) (world), _ :=
    refused_without_trace settings keyRegistry
  obtain ⟨same, -⟩ := (refuses default).2.1 untimely
  have success : (Logger.ofSettings settings keyRegistry default).result = .ok logger :=
    congrArg LoggerOpening.result opening
  obtain ⟨sinks, atRest⟩ := (opens default).2.2 logger success
  -- The new file is empty, so its flusher has no reason to rotate it.
  have rest : logger.AtRest := by
    apply atRest
    refine .inr fun sink member => ?_
    rcases List.mem_pair.mp member with rfl | rfl
    · trivial
    · exact ⟨⟨_, rfl⟩, rfl⟩
  refine ⟨same, draft, logger, congrArg Prod.fst ready, success, sinks, ?_⟩
  obtain ⟨answer, untouched⟩ := again draft first.2 rfl
  refine ⟨congrArg Prod.fst answer, (untouched ?_).trans ?_⟩
  · intro ref own
    obtain rfl := Option.some.inj own
    rw [ready]
    exact rest
  · rw [ready]

/-- A refusal gives up the logger that the draft has, and what becomes of it reaches the disk. A
line that is still on its way is written. And a file that has outgrown its limit is moved to a
backup, in the place of older ones, though there is no line to write. -/
theorem refusals_reach_the_disk :
    let settings := fourByteSettings true
    let files (world : World HostStream Host Unit) : List (Option ByteArray) :=
      (List.range 3).map fun n =>
        world.around.disk.contentAt? ((Location.ofText settings.filePath).slot n)
    let start (disk : Disk) : World HostStream Host Unit :=
      .fresh ⟨disk, .empty⟩ (.counting ⟨0, 0⟩) ()
    let first (disk : Disk) :=
      (Draft.empty : Draft HostStream Host Unit).printByOpening settings keyRegistry (start disk)
    let outgrown : Disk :=
      ⟨[(["d"], .directory), (["d", "f"], .file 0), (["d", "f.1"], .file 1),
          (["d", "f.2"], .file 2)],
        #["sixsix".toUTF8, "one".toUTF8, "two".toUTF8]⟩
    ∃ draft : Draft HostStream Host Unit,
      ((first .empty).1 = .ok draft ∧
        let printed := ((first .empty).2.print ⟨0⟩ (keyBag "aaa")).2
        let again := draft.printByOpening settings keyRegistry printed
        again.1 = .error (.setup .duplicateLogHook) ∧
          files printed = [some .empty, none, none] ∧
          files again.2 = [some "aaa\n".toUTF8, none, none]) ∧
      ((first outgrown).1 = .ok draft ∧
        let again := draft.printByOpening settings keyRegistry (first outgrown).2
        again.1 = .error (.setup .duplicateLogHook) ∧
          files (first outgrown).2 =
            [some "sixsix".toUTF8, some "one".toUTF8, some "two".toUTF8] ∧
          files again.2 = [some .empty, some "sixsix".toUTF8, some "one".toUTF8]) := by
  intro settings files start first outgrown
  let draft : Draft HostStream Host Unit := ⟨⟨.empty, [], [.log], some ⟨0⟩⟩, true⟩
  have opened : ∀ disk logger host notices,
      Logger.ofSettings settings keyRegistry ⟨disk, .empty⟩ = ⟨.ok logger, host, notices⟩ →
        first disk =
          (.ok draft, { start disk with around := host, loggers := [logger], notices }) := by
    intro disk logger host notices opening
    simp only [first, Draft.printByOpening, World.openLogger, start, World.fresh, opening]
    rfl
  let logger (file : RollingFile) : Logger HostStream :=
    ⟨[⟨keyTemplate, .batched ⟨.rolling file, 100, [], .empty, true⟩, false⟩]⟩
  -- The first registration makes a new file, or finds the one of six bytes.
  have new : first .empty = (.ok draft, { start .empty with
      around := ⟨⟨[(["d", "f"], .file 0), (["d"], .directory)], #[.empty]⟩, .empty⟩
      loggers := [logger fourByteFile], notices := [.opened settings.filePath true] }) :=
    opened _ _ _ _ (by cbv)
  have found : first outgrown = (.ok draft, { start outgrown with
      loggers := [logger { fourByteFile with written := 6 }]
      notices := [.opened settings.filePath true] }) :=
    opened _ _ _ _ (by cbv)
  rw [new, found]
  simp only [files, start, World.fresh]
  refine ⟨draft, ⟨rfl, rfl, ?_, ?_⟩, rfl, rfl, ?_, ?_⟩
  · cbv
  · cbv
  · cbv
  · cbv

end Tapline
