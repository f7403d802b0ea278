import Tapline.Proofs.Rolling.Blocks
import Tapline.Proofs.Stream.Watched
import Tapline.Sink.Flusher
/-!
# Batches

Whatever a flusher does, the lines sent to it fall into three parts: those in the batches that it
has handed to its stream, in order, each batch once; those that wait to be handed on; and those
still in the queue. `Carries` says so, and each operation of a flusher keeps it, adding batches.
A batch that the stream did not take or pass on is lost. Its loss is noted, unless a caller had
asked for the flush and is told.
-/

namespace Tapline

open RollingFile (joined joined_concat)

theorem joined_append (pieces more : List ByteArray) :
    joined (pieces ++ more) = joined pieces ++ joined more := by
  induction more using List.reverseRecOn with
  | nil => simp [joined]
  | append_singleton more last ih =>
    rw [← List.append_assoc, joined_concat, joined_concat, ih, ByteArray.append_assoc]

theorem joined_cons (piece : ByteArray) (rest : List ByteArray) :
    joined (piece :: rest) = piece ++ joined rest := by
  rw [← List.singleton_append, joined_append, RollingFile.joined_singleton]

theorem joined_flatten (groups : List (List ByteArray)) :
    joined groups.flatten = joined (groups.map joined) := by
  induction groups with
  | nil => rfl
  | cons group rest ih => rw [List.flatten_cons, joined_append, ih, List.map_cons, joined_cons]

theorem size_joined (pieces : List ByteArray) :
    (joined pieces).size = (pieces.map ByteArray.size).sum := by
  induction pieces with
  | nil => rfl
  | cons piece rest ih => rw [joined_cons, ByteArray.size_append, ih, List.map_cons, List.sum_cons]

/-- Lines that were handed to a stream together. -/
structure Batch where
  lines : List ByteArray
  /-- Whether the stream took the bytes. -/
  taken : Bool
  /-- Whether the stream, having taken them, passed them on. -/
  passed : Bool
  /-- Whether a caller asked for it. -/
  requested : Bool

namespace Batch

def bytes (batch : Batch) : ByteArray := joined batch.lines

def delivered (batch : Batch) : Bool := batch.taken && batch.passed

/-- The calls that a batch makes on its stream. -/
def calls (batch : Batch) : List Asked :=
  if batch.taken then [.write batch.bytes true, .flush batch.passed]
  else [.write batch.bytes false]

/-- The bytes whose loss is noted, if the batch was lost and nobody had asked for it. -/
def noted? (batch : Batch) : Option Nat :=
  if !batch.delivered && !batch.requested then some batch.bytes.size else none

/-- Whether the batch was lost, and only the caller who asked for it is told. -/
def told (batch : Batch) : Bool := batch.requested && !batch.delivered

/-- What whoever asked for a batch is told. -/
def Answer (batch : Batch) (result : Except SinkError Unit) : Prop :=
  batch.delivered = true ∧ result = .ok () ∨
    batch.delivered = false ∧ ∃ fault, result = .error (.io fault)

theorem countP_told {batches : List Batch} (own : ∀ batch ∈ batches, batch.requested = false) :
    batches.countP told = 0 := by
  rw [List.countP_eq_zero]
  intro batch member
  simp [told, own batch member]

theorem filterMap_written?_calls (batch : Batch) :
    batch.calls.filterMap Asked.written? = [batch.bytes] := by
  unfold calls
  split <;> rfl

end Batch

theorem attempts_of_batches {δ : Type u} {stream : Watched δ} {batches : List Batch}
    (asked : stream.asked = batches.flatMap Batch.calls) :
    stream.attempts = batches.map Batch.bytes := by
  rw [Watched.attempts, asked, List.filterMap_flatMap]
  simp only [Batch.filterMap_written?_calls]
  exact List.flatMap_pure_eq_map Batch.bytes batches

namespace Flusher

variable {δ : Type u} {ε : Type v} {able : Watched δ → Prop}

/-- The lines sent to a flusher, by where they are: in batches, waiting, or in the queue. -/
structure Carries (able : Watched δ → Prop) (flusher : Flusher (Watched δ)) (batches : List Batch)
    (waiting lines : List ByteArray) : Prop where
  able : able flusher.stream
  asked : flusher.stream.asked = batches.flatMap Batch.calls
  pending : flusher.pending = joined waiting
  lines : lines = batches.flatMap Batch.lines ++ waiting ++ flusher.queue
  idle : flusher.alive = false → waiting = [] ∧ flusher.queue = []

/-- Less than a batch is waiting. -/
def Small (flusher : Flusher δ) : Prop :=
  flusher.pending.size = 0 ∨ flusher.pending.size < flusher.capacity

/-- What an operation leaves of a flusher: the batches that it added, what waits behind them, and
how often it gave the stream up. -/
structure Leaves (able : Watched δ → Prop) (before : Flusher (Watched δ))
    (step : FlusherStep (Watched δ) ε) (batches added : List Batch)
    (waiting lines : List ByteArray) (times : Nat) : Prop where
  carries : step.flusher.Carries able (batches ++ added) waiting lines
  small : before.Small → step.flusher.Small
  alive : step.flusher.alive = before.alive
  capacity : step.flusher.capacity = before.capacity
  released : step.flusher.stream.released = before.stream.released + times
  noted : step.notices.filterMap Notice.loss? = added.filterMap Batch.noted?

variable {flusher : Flusher (Watched δ)} {batches : List Batch} {waiting lines : List ByteArray}

/-- An operation that has nothing to do. -/
theorem Carries.rest (carries : flusher.Carries able batches waiting lines) (around : ε)
    (result : Except SinkError Unit) :
    Leaves able flusher ⟨result, flusher, around, []⟩ batches [] waiting lines 0 :=
  ⟨by rw [List.append_nil]; exact carries, id, rfl, rfl, rfl, rfl⟩

theorem Leaves.trans {step next : FlusherStep (Watched δ) ε} {added more : List Batch}
    {left : List ByteArray} {times : Nat}
    (leaves : Leaves able flusher step batches added waiting lines 0)
    (later : Leaves able step.flusher next (batches ++ added) more left lines times) :
    Leaves able flusher { next with notices := step.notices ++ next.notices } batches
      (added ++ more) left lines times := by
  refine ⟨?_, later.small ∘ leaves.small, later.alive.trans leaves.alive,
    later.capacity.trans leaves.capacity, ?_, ?_⟩
  · rw [← List.append_assoc]
    exact later.carries
  · rw [later.released, leaves.released, Nat.add_zero]
  · rw [List.filterMap_append, leaves.noted, later.noted, List.filterMap_append]

/-- A flusher that has nothing left gets nothing by an operation of its own. -/
theorem Leaves.nothing {step : FlusherStep (Watched δ) ε} {added : List Batch}
    {left : List ByteArray} {times : Nat}
    (leaves : Leaves able flusher step batches added left lines times)
    (carries : flusher.Carries able batches [] lines) (empty : flusher.queue = []) :
    left = [] ∧ step.flusher.queue = [] := by
  have lines' := leaves.carries.lines
  rw [carries.lines, empty, List.flatMap_append] at lines'
  simp only [List.append_nil, List.append_assoc, List.self_eq_append_right,
    List.append_eq_nil_iff] at lines'
  exact lines'.2

theorem Carries.send (carries : flusher.Carries able batches waiting lines)
    (alive : flusher.alive = true) (line : ByteArray) :
    (flusher.send line).Carries able batches waiting (lines ++ [line]) := by
  refine ⟨carries.able, carries.asked, carries.pending, ?_, fun dead => ?_⟩
  · rw [carries.lines, Flusher.send, List.append_assoc]
  · exact absurd (alive.symm.trans dead) Bool.noConfusion

theorem Carries.small (carries : flusher.Carries able batches [] lines) : flusher.Small := by
  left
  rw [carries.pending]
  rfl

variable [ByteStream δ ε]

/-- Writing a batch makes the calls of a batch, one way or the other. -/
theorem writeBatch_calls (steady : Steady able) {stream : Watched δ} (sort : able stream)
    (around : ε) (lines : List ByteArray) (requested : Bool) :
    ∃ batch : Batch, batch.lines = lines ∧ batch.requested = requested ∧
      let step := writeBatch stream around (joined lines)
      able step.stream ∧ step.stream.released = stream.released ∧
        step.stream.asked = stream.asked ++ batch.calls ∧
        step.notices.filterMap Notice.loss? = [] ∧
        (batch.delivered = true ∧ step.result = .ok () ∨
          batch.delivered = false ∧ ∃ fault, step.result = .error (.refused fault)) := by
  obtain ⟨noCrash, quiet⟩ := steady.writeAll stream around (joined lines) sort
  have kept := steady.keeps.writeAll stream around (joined lines) sort
  have asked := stream.asked_writeAll around (joined lines)
  have released := stream.released_writeAll around (joined lines)
  have silent := List.filterMap_eq_nil_iff.mpr quiet
  simp only [writeBatch]
  generalize ByteStream.writeAll stream around (joined lines) = written at *
  -- A refused write is not followed by a flush, so each case adds the calls of one batch.
  cases first : written.result with
  | error cause =>
    rw [first] at asked
    cases cause with
    | crashed cause => exact absurd first (noCrash cause)
    | refused fault =>
      exact ⟨⟨lines, false, false, requested⟩, rfl, rfl, kept, released, asked, silent,
        .inr ⟨rfl, fault, first⟩⟩
  | ok =>
    rw [first] at asked
    obtain ⟨noCrash', quiet'⟩ := steady.flush written.stream written.around kept
    have kept' := steady.keeps.flush written.stream written.around kept
    have asked' := written.stream.asked_flush written.around
    have released' := written.stream.released_flush written.around
    have silent' : (written.notices ++
        (ByteStream.flush written.stream written.around).notices).filterMap Notice.loss? = [] := by
      rw [List.filterMap_append, silent, List.filterMap_eq_nil_iff.mpr quiet', List.append_nil]
    generalize ByteStream.flush written.stream written.around = flushed at *
    rw [asked, List.append_assoc] at asked'
    cases second : flushed.result with
    | error cause =>
      rw [second] at asked'
      cases cause with
      | crashed cause => exact absurd second (noCrash' cause)
      | refused fault =>
        exact ⟨⟨lines, true, false, requested⟩, rfl, rfl, kept', released'.trans released, asked',
          silent', .inr ⟨rfl, fault, rfl⟩⟩
    | ok =>
      rw [second] at asked'
      exact ⟨⟨lines, true, true, requested⟩, rfl, rfl, kept', released'.trans released, asked',
        silent', .inl ⟨rfl, rfl⟩⟩

theorem Carries.drain (steady : Steady able) (carries : flusher.Carries able batches waiting lines)
    (around : ε) (onLoss : Nat → IOFault → List Notice) (requested : Bool)
    (honest : ∀ bytes fault, (onLoss bytes fault).filterMap Notice.loss? =
      if requested then [] else [bytes]) :
    ∃ batch : Batch, batch.requested = requested ∧
      batch.Answer (flusher.drain around onLoss).result ∧
      (flusher.drain around onLoss).flusher.queue = flusher.queue ∧
      Leaves able flusher (flusher.drain around onLoss) batches [batch] [] lines 0 := by
  obtain ⟨batch, rfl, rfl, sort, released, asked, silent, answer⟩ :=
    writeBatch_calls steady carries.able around waiting requested
  have asked' : (writeBatch flusher.stream around (joined batch.lines)).stream.asked =
      (batches ++ [batch]).flatMap Batch.calls := by
    rw [asked, carries.asked, List.flatMap_append, List.flatMap_singleton]
  have lines' : lines =
      (batches ++ [batch]).flatMap Batch.lines ++ [] ++ flusher.queue := by
    rw [carries.lines, List.flatMap_append, List.flatMap_singleton, List.append_nil]
  have idle := fun dead => (carries.idle dead).2
  refine ⟨batch, rfl, ?_⟩
  simp only [Flusher.drain, carries.pending]
  -- The bytes are given up either way; only what is noted and answered differs.
  rcases answer with ⟨delivered, answer⟩ | ⟨lost, fault, answer⟩
  · simp only [answer, true_and]
    refine ⟨.inl ⟨delivered, rfl⟩, ⟨sort, asked', rfl, lines', fun dead => ⟨rfl, idle dead⟩⟩,
      fun _ => .inl rfl, rfl, rfl, released, ?_⟩
    rw [silent]
    simp [Batch.noted?, delivered]
  · simp only [answer, true_and]
    refine ⟨.inr ⟨lost, fault, rfl⟩, ⟨sort, asked', rfl, lines', fun dead => ⟨rfl, idle dead⟩⟩,
      fun _ => .inl rfl, rfl, rfl, released, ?_⟩
    rw [List.filterMap_append, silent, honest]
    cases own : batch.requested <;> simp [Batch.noted?, lost, own, Batch.bytes]

theorem Carries.drainBatch (steady : Steady able)
    (carries : flusher.Carries able batches waiting lines) (around : ε) :
    ∃ batch : Batch, batch.requested = false ∧
      (flusher.drainBatch around).flusher.queue = flusher.queue ∧
      Leaves able flusher (flusher.drainBatch around) batches [batch] [] lines 0 := by
  obtain ⟨batch, own, -, queue, leaves⟩ :=
    carries.drain steady around (fun bytes fault => [.batchDropped bytes fault]) false
      fun _ _ => rfl
  exact ⟨batch, own, queue, leaves⟩

theorem Carries.receive (steady : Steady able)
    (carries : flusher.Carries able batches waiting lines) (around : ε) :
    ∃ added left, (∀ batch ∈ added, batch.requested = false) ∧
      (flusher.receive around).flusher.queue = flusher.queue.tail ∧
      Leaves able flusher (flusher.receive around) batches added left lines 0 := by
  unfold Flusher.receive
  cases queue : flusher.queue with
  | nil => exact ⟨[], waiting, by simp, queue, carries.rest around _⟩
  | cons line rest =>
    -- The line goes behind those that wait, whether or not they become a batch.
    have received : Carries able { flusher with queue := rest, pending := flusher.pending ++ line }
        batches (waiting ++ [line]) lines := by
      refine ⟨carries.able, carries.asked, ?_, ?_, fun dead => ?_⟩
      · rw [joined_concat, carries.pending]
      · rw [carries.lines, queue]
        simp
      · rw [(carries.idle dead).2] at queue
        cases queue
    simp only [List.tail_cons]
    split
    next full =>
      obtain ⟨batch, own, queue', leaves⟩ := received.drainBatch steady around
      exact ⟨[batch], [], by simp [own], queue', leaves.carries,
        fun _ => leaves.carries.small, leaves.alive, leaves.capacity, leaves.released,
        leaves.noted⟩
    next room =>
      refine ⟨[], waiting ++ [line], by simp, rfl, ?_, fun _ => .inr (Nat.lt_of_not_le room),
        rfl, rfl, rfl, rfl⟩
      rw [List.append_nil]
      exact received

theorem Carries.tick (steady : Steady able)
    (carries : flusher.Carries able batches waiting lines) (around : ε) :
    ∃ added left, (∀ batch ∈ added, batch.requested = false) ∧
      (flusher.tick around).flusher.queue = flusher.queue ∧
      Leaves able flusher (flusher.tick around) batches added left lines 0 := by
  unfold Flusher.tick
  split
  · exact ⟨[], waiting, by simp, rfl, carries.rest around _⟩
  · obtain ⟨batch, own, queue, leaves⟩ := carries.drainBatch steady around
    exact ⟨[batch], [], by simp [own], queue, leaves⟩

theorem Carries.move (steady : Steady able)
    (carries : flusher.Carries able batches waiting lines) (around : ε) (which : FlusherMove) :
    ∃ added left, (∀ batch ∈ added, batch.requested = false) ∧
      (flusher.move around which).flusher.queue =
        (match which with | .receive => flusher.queue.tail | .tick => flusher.queue) ∧
      Leaves able flusher (flusher.move around which) batches added left lines 0 := by
  unfold Flusher.move
  split
  next =>
    cases which with
    | receive => exact carries.receive steady around
    | tick => exact carries.tick steady around
  next dead =>
    refine ⟨[], waiting, by simp, ?_, carries.rest around _⟩
    have nothing := (carries.idle (Bool.eq_false_of_not_eq_true dead)).2
    cases which with
    | receive => simp [nothing]
    | tick => rfl

/-- By induction on the number of lines received. -/
theorem Carries.receiveMany (steady : Steady able) (n : Nat)
    (carries : flusher.Carries able batches waiting lines) (around : ε) :
    ∃ added left, (∀ batch ∈ added, batch.requested = false) ∧
      (receiveMany n flusher around).flusher.queue = flusher.queue.drop n ∧
      Leaves able flusher (receiveMany n flusher around) batches added left lines 0 := by
  induction n generalizing flusher batches waiting around with
  | zero => exact ⟨[], waiting, by simp, rfl, carries.rest around _⟩
  | succ n ih =>
    obtain ⟨added, left, own, queue, leaves⟩ := carries.move steady around .receive
    obtain ⟨more, last, own', queue', later⟩ :=
      ih leaves.carries (flusher.move around .receive).around
    refine ⟨added ++ more, last, ?_, ?_, leaves.trans later⟩
    · intro batch member
      exact (List.mem_append.mp member).elim (own batch) (own' batch)
    · rw [Flusher.receiveMany, queue', queue, List.drop_tail]

theorem Carries.catchUp (steady : Steady able)
    (carries : flusher.Carries able batches waiting lines) (around : ε) :
    ∃ added left, (∀ batch ∈ added, batch.requested = false) ∧
      (flusher.catchUp around).flusher.queue = [] ∧
      Leaves able flusher (flusher.catchUp around) batches added left lines 0 := by
  obtain ⟨added, left, own, queue, leaves⟩ :=
    carries.receiveMany steady flusher.queue.length around
  exact ⟨added, left, own, by rw [Flusher.catchUp, queue, List.drop_length], leaves⟩

theorem catchUp_of_empty (nothing : flusher.queue = []) (around : ε) :
    flusher.catchUp around = ⟨.ok (), flusher, around, []⟩ := by
  rw [catchUp, nothing]
  rfl

theorem sync_of_dead (dead : flusher.alive = false) (nothing : flusher.queue = []) (around : ε) :
    flusher.sync around = ⟨.error .flusherDead, flusher, around, []⟩ := by
  simp [sync, catchUp_of_empty nothing, dead]

theorem finish_of_dead (dead : flusher.alive = false) (nothing : flusher.queue = [])
    (around : ε) : flusher.finish around = ⟨.error .flusherDead, flusher, around, []⟩ := by
  simp [finish, catchUp_of_empty nothing, dead]

/-- A flush hands everything on, the last of it in a batch that the caller hears of. -/
theorem Carries.sync (steady : Steady able)
    (carries : flusher.Carries able batches waiting lines) (alive : flusher.alive = true)
    (around : ε) :
    ∃ added last, (∀ batch ∈ added, batch.requested = false) ∧ last.requested = true ∧
      last.Answer (flusher.sync around).result ∧ (flusher.sync around).flusher.queue = [] ∧
      Leaves able flusher (flusher.sync around) batches (added ++ [last]) [] lines 0 := by
  obtain ⟨added, left, own, queue, leaves⟩ := carries.catchUp steady around
  obtain ⟨last, asked, answer, queue', later⟩ :=
    leaves.carries.drain steady (flusher.catchUp around).around (fun _ _ => []) true
      fun _ _ => rfl
  simp only [Flusher.sync, leaves.alive.trans alive, if_true]
  exact ⟨added, last, own, asked, answer, queue'.trans queue, leaves.trans later⟩

/-- Finishing hands everything on by the flusher's own account, and gives the stream up. -/
theorem Carries.finish (steady : Steady able)
    (carries : flusher.Carries able batches waiting lines) (alive : flusher.alive = true)
    (around : ε) :
    ∃ added, (∀ batch ∈ added, batch.requested = false) ∧
      (flusher.finish around).flusher.queue = [] ∧
      Leaves able flusher (flusher.finish around) batches added [] lines 1 := by
  obtain ⟨added, left, own, queue, leaves⟩ := carries.catchUp steady around
  obtain ⟨last, own', -, queue', later⟩ :=
    leaves.carries.drain steady (flusher.catchUp around).around
      (fun bytes fault => [.finalBatchLost bytes fault]) false fun _ _ => rfl
  have both := leaves.trans later
  have alive' := both.alive.trans alive
  simp only [Flusher.finish, leaves.alive.trans alive, if_true] at alive' ⊢
  simp only [alive', if_true]
  refine ⟨added ++ [last], ?_, queue'.trans queue, ?_, fun _ => .inl ?_, alive.symm, both.capacity,
    congrArg (· + 1) both.released, both.noted⟩
  · intro batch member
    rcases List.mem_append.mp member with earlier | final
    · exact own batch earlier
    · rw [List.mem_singleton.mp final, own']
  · obtain ⟨sort, asked, pending, lines', -⟩ := both.carries
    exact ⟨steady.keeps.release _ _ sort, asked, pending, lines', nofun⟩
  · exact congrArg ByteArray.size both.carries.pending

end Flusher

end Tapline
