import Tapline.Proofs.Stream.Watched
/-!
# Which host streams are steady

What is proved of steady streams holds of those a host has. Only a stream made to crash does, and
a rolling file whose buffer cannot be set aside; rotating a file reports no loss of its own.
Memory never refuses. A script may refuse any call, but with no limit on what a call takes it never
takes a part of the bytes.
-/

namespace Tapline

/-! ### Rolling files -/

/-- A step of a rolling file that refuses at worst and reports no loss. -/
structure RollingStep.Fair {α : Type u} (file : RollingFile) (step : RollingStep α) : Prop where
  limits : step.file.limits = file.limits
  noCrash : ∀ cause, step.result ≠ .error (.crashed cause)
  quiet : ∀ notice ∈ step.notices, notice.loss? = none

namespace RollingFile

variable {file : RollingFile}

theorem fair_reopen (possible : file.limits.bufferSize ≤ greatestBuffer) (disk : Disk) :
    (file.reopen disk).Fair file := by
  unfold reopen
  split
  next fault _ => exact ⟨rfl, nofun, nofun⟩
  next =>
    rw [if_neg (Nat.not_lt_of_le possible)]
    exact ⟨rfl, nofun, nofun⟩

theorem fair_flush (file : RollingFile) (disk : Disk) : (file.flush disk).Fair file := by
  unfold flush
  split <;> exact ⟨rfl, nofun, nofun⟩

theorem limits_close (file : RollingFile) (disk : Disk) : (file.close disk).1.limits = file.limits :=
  (file.fair_flush disk).limits

theorem fair_rotate (possible : file.limits.bufferSize ≤ greatestBuffer) (disk : Disk) :
    (file.rotate disk).Fair file := by
  have limits := file.limits_close disk
  unfold rotate
  generalize file.close disk = closed at *
  simp only
  split
  next fault _ _ => exact ⟨limits, nofun, nofun⟩
  next shifted _ =>
    have opened := fair_reopen (limits ▸ possible) shifted
    refine ⟨opened.limits.trans limits, opened.noCrash, ?_⟩
    intro notice member
    rcases List.mem_cons.mp member with rfl | later
    · rfl
    · exact opened.quiet notice later

theorem fair_ensureOpen (possible : file.limits.bufferSize ≤ greatestBuffer) (disk : Disk) :
    (file.ensureOpen disk).Fair file := by
  unfold ensureOpen
  split
  · exact ⟨rfl, nofun, nofun⟩
  · exact fair_reopen possible disk

theorem fair_write (possible : file.limits.bufferSize ≤ greatestBuffer) (disk : Disk)
    (bytes : ByteArray) : (file.write disk bytes).Fair file := by
  have opened := fair_ensureOpen possible disk
  unfold write
  simp only
  split
  next fault _ failed =>
    refine ⟨opened.limits, fun cause crash => ?_, opened.quiet⟩
    exact opened.noCrash cause (failed.trans (congrArg Except.error (Except.error.inj crash)))
  next => exact ⟨opened.limits, nofun, opened.quiet⟩
  next => exact ⟨opened.limits, nofun, opened.quiet⟩

theorem fair_writeAll (possible : file.limits.bufferSize ≤ greatestBuffer) (disk : Disk)
    (record : ByteArray) : (file.writeAll disk record).Fair file := by
  have ready : (if file.needsRotation record.size then file.rotate disk
      else ⟨.ok (), file, disk, []⟩ : RollingStep Unit).Fair file := by
    split
    · exact fair_rotate possible disk
    · exact ⟨rfl, nofun, nofun⟩
  unfold writeAll
  generalize (if file.needsRotation record.size then file.rotate disk
    else ⟨.ok (), file, disk, []⟩ : RollingStep Unit) = step at *
  simp only
  split
  next fault failed =>
    refine ⟨ready.limits, fun cause crash => ?_, ready.quiet⟩
    exact ready.noCrash cause (failed.trans (congrArg Except.error (Except.error.inj crash)))
  next =>
    have written := fair_write (ready.limits.symm ▸ possible) step.disk record
    refine ⟨written.limits.trans ready.limits, fun cause crash => ?_, fun notice member => ?_⟩
    · cases outcome : (step.file.write step.disk record).result with
      | ok => simp [outcome, Except.map] at crash
      | error fault =>
        simp only [outcome, Except.map, Except.error.injEq] at crash
        exact written.noCrash cause (crash ▸ outcome)
    · rcases List.mem_append.mp member with earlier | later
      · exact ready.quiet notice earlier
      · exact written.quiet notice later

end RollingFile

/-! ### Scripted streams -/

/-- Adds the bytes that a call took. -/
def StreamCall.addTo (bytes : ByteArray) : StreamCall → ByteArray
  | wrote more => bytes ++ more
  | _ => bytes

namespace ScriptedStream

/-- The bytes that the calls took. -/
def taken (stream : ScriptedStream) : ByteArray := stream.calls.foldl StreamCall.addTo .empty

theorem taken_keep (stream : ScriptedStream) (call : StreamCall) :
    (stream.keep call).taken = call.addTo stream.taken := by
  rw [taken, keep, Array.foldl_push]
  rfl

/-- If nothing limits how much a call takes, one call takes all of the bytes or none. -/
theorem writeAll_of_unlimited (stream : ScriptedStream) (unlimited : stream.most = none)
    (bytes : ByteArray) (some : bytes.isEmpty = false) :
    stream.writeAll bytes =
      let called := { stream with writes := stream.writes + 1 }
      if called.writes ∈ stream.failWrites then
        (.error (.other "chunk write refused"), called.keep .writeFailed)
      else (.ok (), called.keep (.wrote bytes)) := by
  obtain ⟨n, size⟩ : ∃ n, bytes.size = n + 1 :=
    Nat.exists_eq_succ_of_ne_zero (by simpa [ByteArray.isEmpty] using some)
  have whole : bytes.extract 0 (n + 1) = bytes := by rw [← size, ByteArray.extract_zero_size]
  have none : ByteArray.empty.isEmpty = true := rfl
  rw [writeAll, writeLoop, size, writeOnce]
  by_cases refused : stream.writes + 1 ∈ stream.failWrites
  · simp [some, refused]
  · simp [some, refused, unlimited, size, whole, writeLoop, none]

theorem taken_writeAll (stream : ScriptedStream) (unlimited : stream.most = none)
    (bytes : ByteArray) :
    (stream.writeAll bytes).2.most = none ∧
      (stream.writeAll bytes).2.taken =
        stream.taken ++ if (stream.writeAll bytes).1.isOk then bytes else .empty := by
  cases empty : bytes.isEmpty with
  | true =>
    have nothing : bytes = .empty := by
      simpa [ByteArray.isEmpty, ByteArray.size_eq_zero_iff] using empty
    rw [nothing]
    exact ⟨unlimited, by simp [writeAll, writeLoop, ByteArray.isEmpty]⟩
  | false =>
    rw [writeAll_of_unlimited stream unlimited bytes empty]
    simp only
    split
    · rw [taken_keep]
      exact ⟨unlimited, ByteArray.append_empty.symm⟩
    · rw [taken_keep]
      exact ⟨unlimited, rfl⟩

theorem taken_flush (stream : ScriptedStream) :
    stream.flush.2.most = stream.most ∧ stream.flush.2.taken = stream.taken := by
  unfold flush
  simp only
  split
  · rw [taken_keep]
    exact ⟨rfl, rfl⟩
  · rw [taken_keep]
    exact ⟨rfl, rfl⟩

end ScriptedStream

/-! ### Host streams -/

namespace HostStream

/-- A stream that does not crash. -/
def Sturdy : HostStream → Prop
  | crashing => False
  | rolling file => file.limits.bufferSize ≤ RollingFile.greatestBuffer
  | _ => True

/-- The bytes in memory. -/
def kept : HostStream → ByteArray
  | memory content => content
  | _ => .empty

private theorem mapError_refused (result : Except IOFault Unit) (cause : Fatal) :
    result.mapError StreamFault.refused ≠ .error (.crashed cause) := by
  intro crash
  cases result with
  | ok => cases crash
  | error fault => cases crash

private theorem sturdy_of_limits {file next : RollingFile} (limits : next.limits = file.limits)
    (sturdy : Sturdy (rolling file)) : Sturdy (rolling next) :=
  (congrArg (·.bufferSize ≤ RollingFile.greatestBuffer) limits).mpr sturdy

theorem steady_sturdy : Steady Sturdy := by
  refine ⟨⟨?_, ?_, ?_⟩, ?_, ?_⟩
  · intro stream host bytes sturdy
    cases stream with
    | crashing => exact sturdy.elim
    | rolling file =>
      exact sturdy_of_limits (RollingFile.fair_writeAll sturdy host.disk bytes).limits sturdy
    | _ => trivial
  · intro stream host sturdy
    cases stream with
    | crashing => exact sturdy.elim
    | rolling file => exact sturdy_of_limits (file.fair_flush host.disk).limits sturdy
    | _ => trivial
  · intro stream host sturdy
    cases stream with
    | crashing => exact sturdy.elim
    | rolling file => exact sturdy_of_limits (file.limits_close host.disk) sturdy
    | _ => trivial
  · intro stream host bytes sturdy
    cases stream with
    | crashing => exact sturdy.elim
    | memory | terminal => exact ⟨nofun, nofun⟩
    | rejecting =>
      exact ⟨mapError_refused (if bytes.isEmpty then .ok () else .error _), nofun⟩
    | scripted script => exact ⟨mapError_refused (script.writeAll bytes).1, nofun⟩
    | rolling file =>
      have fair := RollingFile.fair_writeAll sturdy host.disk bytes
      exact ⟨fair.noCrash, fair.quiet⟩
  · intro stream host sturdy
    cases stream with
    | crashing => exact sturdy.elim
    | memory | terminal | rejecting => exact ⟨nofun, nofun⟩
    | scripted script => exact ⟨mapError_refused script.flush.1, nofun⟩
    | rolling file =>
      have fair := file.fair_flush host.disk
      exact ⟨fair.noCrash, fair.quiet⟩

/-- A stream by a script that does not limit how much a call takes. -/
def IsUnlimited (stream : HostStream) : Prop :=
  ∃ script, stream = scripted script ∧ script.most = none

/-- The bytes that a script let through. -/
def taken : HostStream → ByteArray
  | scripted script => script.taken
  | _ => .empty

private theorem isOk_mapError_refused (result : Except IOFault Unit) :
    (result.mapError StreamFault.refused).isOk = result.isOk := by
  cases result with
  | ok => rfl
  | error fault => rfl

/-- Scripts fail writes as they like, but whole ones. -/
theorem allOrNothing_scripted : AllOrNothing IsUnlimited taken := by
  refine ⟨⟨?_, ?_, ?_⟩, ?_, ?_, ?_⟩
  · rintro _ host bytes ⟨script, rfl, unlimited⟩
    exact ⟨_, rfl, (script.taken_writeAll unlimited bytes).1⟩
  · rintro _ host ⟨script, rfl, unlimited⟩
    exact ⟨_, rfl, script.taken_flush.1.trans unlimited⟩
  · rintro _ host ⟨script, rfl, unlimited⟩
    exact ⟨script, rfl, unlimited⟩
  · rintro _ host bytes ⟨script, rfl, unlimited⟩
    have same : (ByteStream.writeAll (scripted script) host bytes).result.isOk =
        (script.writeAll bytes).1.isOk := isOk_mapError_refused _
    rw [same]
    exact (script.taken_writeAll unlimited bytes).2
  · rintro _ host ⟨script, rfl, unlimited⟩
    exact script.taken_flush.2
  · rintro _ host ⟨script, rfl, unlimited⟩
    rfl

end HostStream

end Tapline
