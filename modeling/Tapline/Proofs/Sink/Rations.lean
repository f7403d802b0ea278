import Tapline.Proofs.Sink.Apart
import Tapline.Proofs.Sink.Lifecycle
/-!
# What reaches a stream at once

A direct sink hands its stream one line at a time. A batched one hands it several, and a batch may
outgrow the capacity of the flusher, but only by its last line: without it the batch was still small
enough to wait.

## Main result

`lines_reach_in_groups`: for a sink in either way of delivery, that has been closed.

## Proof strategy

Each move of a flusher adds at most one line to those that wait. A call that waits receives many at
once; but it may as well come after the flusher has received them one by one (`next_of_receive`), so
the induction is on the queue.
-/

namespace Tapline

open RollingFile (joined)

variable {δ : Type u} {ε : Type v}

/-! ### Sizes -/

/-- Without the last of them, lines are smaller than a capacity. -/
def FitsUpToLast (capacity : Nat) (lines : List ByteArray) : Prop :=
  (joined lines.dropLast).size < capacity

theorem size_joined_of_sublist {part lines : List ByteArray} (among : part.Sublist lines) :
    (joined part).size ≤ (joined lines).size := by
  rw [size_joined, size_joined]
  exact (among.map ByteArray.size).sum_le_sum fun _ _ => Nat.zero_le _

theorem FitsUpToLast.sublist {capacity : Nat} {part lines : List ByteArray}
    (fits : FitsUpToLast capacity lines) (among : part.Sublist lines) :
    FitsUpToLast capacity part := by
  have shorter : part.dropLast.Sublist lines.dropLast := by
    -- Seen from behind, dropping the last is taking the tail.
    have reversed := (List.reverse_sublist.mpr among).tail
    rwa [List.tail_reverse, List.tail_reverse, List.reverse_sublist] at reversed
  exact Nat.lt_of_le_of_lt (size_joined_of_sublist shorter) fits

namespace SinkHistory

variable {able : Watched δ → Prop} {template : Template} {capacity : Nat} {alive : Bool}
  {history after : SinkHistory (Watched δ) ε} {flusher flusher' : Flusher (Watched δ)}
  {batches added : List Batch} {waiting left : List ByteArray}

/-- The lines of a flusher are where they were, or in the batches that were added. -/
theorem Holds.added_lines
    (holds : Holds able template capacity alive history flusher batches waiting)
    (holds' : Holds able template capacity alive after flusher' (batches ++ added) left)
    (records : after.records = history.records) :
    waiting ++ flusher.queue = added.flatMap Batch.lines ++ left ++ flusher'.queue := by
  have before := holds.carries.lines
  have added := holds'.carries.lines
  rw [records, before] at added
  simpa using added

/-- What waits fits, even with one line more behind it. -/
theorem Holds.fitsUpToLast
    (holds : Holds able template capacity alive history flusher batches waiting)
    (positive : 0 < capacity) (line : ByteArray) : FitsUpToLast capacity (waiting ++ [line]) := by
  have small := holds.small
  rw [Flusher.Small, holds.carries.pending, holds.capacity] at small
  rw [FitsUpToLast, List.dropLast_concat]
  omega

/-- The history of a batched sink in which no batch was kept waiting for too long. -/
def Rationed (able : Watched δ → Prop) (template : Template) (capacity : Nat) (alive : Bool)
    (history : SinkHistory (Watched δ) ε) (flusher : Flusher (Watched δ)) : Prop :=
  ∃ batches waiting, Holds able template capacity alive history flusher batches waiting ∧
    ∀ batch ∈ batches, FitsUpToLast capacity batch.lines

/-- Batches are added of what waited and at most one line more. -/
theorem Holds.rationed (positive : 0 < capacity)
    (holds : Holds able template capacity alive history flusher batches waiting)
    (fits : ∀ batch ∈ batches, FitsUpToLast capacity batch.lines)
    (holds' : Holds able template capacity alive after flusher' (batches ++ added) left)
    (line : ByteArray)
    (among : (added.flatMap Batch.lines ++ left).Sublist (waiting ++ [line])) :
    Rationed able template capacity alive after flusher' := by
  refine ⟨batches ++ added, left, holds', fun batch member => ?_⟩
  rcases List.mem_append.mp member with earlier | new
  · exact fits batch earlier
  · have part : batch.lines.Sublist (added.flatMap Batch.lines) := by
      rw [List.flatMap_def]
      exact List.sublist_flatten_of_mem (List.mem_map_of_mem new)
    apply (holds.fitsUpToLast positive line).sublist
    exact (part.trans (List.sublist_append_left _ left)).trans among

variable [ByteStream δ ε]

theorem Rationed.move (steady : Steady able) (positive : 0 < capacity)
    (rationed : Rationed able template capacity alive history flusher) (which : FlusherMove) :
    ∃ flusher', Rationed able template capacity alive (history.next (.move which)) flusher' ∧
      flusher'.queue =
        match which with | .receive => flusher.queue.tail | .tick => flusher.queue := by
  obtain ⟨batches, waiting, holds, fits⟩ := rationed
  obtain ⟨flusher', added, left, holds', queue, -, records⟩ := holds.move steady which
  have lines := holds.added_lines holds' records
  -- A line that is received goes behind those that wait.
  obtain ⟨line, among⟩ : ∃ line,
      (added.flatMap Batch.lines ++ left).Sublist (waiting ++ [line]) := by
    rw [queue] at lines
    cases which with
    | tick =>
      refine ⟨.empty, ?_⟩
      rw [← List.append_cancel_right lines]
      exact List.sublist_append_left _ _
    | receive =>
      cases queued : flusher.queue with
      | nil =>
        simp only [queued, List.tail_nil, List.append_nil] at lines
        refine ⟨.empty, ?_⟩
        rw [← lines]
        exact List.sublist_append_left _ _
      | cons line rest =>
        rw [queued, List.tail_cons, ← List.singleton_append, ← List.append_assoc] at lines
        exact ⟨line, by rw [List.append_cancel_right lines]⟩
  exact ⟨flusher', holds.rationed positive fits holds' line among, queue⟩

/-- A call that waits, when nothing is left in the queue. -/
theorem Rationed.of_empty (steady : Steady able) (positive : 0 < capacity)
    (rationed : Rationed able template capacity alive history flusher)
    (empty : flusher.queue = []) {event : SinkEvent} (waits : event = .flush ∨ event = .close) :
    ∃ flusher', Rationed able template capacity alive (history.next event) flusher' := by
  obtain ⟨batches, waiting, holds, fits⟩ := rationed
  -- Either call sends what waits and leaves nothing.
  obtain ⟨flusher', added, holds', queue, records⟩ : ∃ flusher' added,
      Holds able template capacity alive (history.next event) flusher' (batches ++ added) [] ∧
        flusher'.queue = [] ∧ (history.next event).records = history.records := by
    rcases waits with rfl | rfl
    · obtain ⟨flusher', added, holds', queue, -, records⟩ := holds.flush steady
      exact ⟨flusher', added, holds', queue, records⟩
    · obtain ⟨flusher', added, holds', queue, -, records⟩ := holds.close steady
      exact ⟨flusher', added, holds', queue, records⟩
  have lines := holds.added_lines holds' records
  rw [empty, queue, List.append_nil, List.append_nil] at lines
  refine ⟨flusher', holds.rationed positive fits holds' .empty ?_⟩
  rw [← lines]
  exact List.sublist_append_left _ _

theorem Rationed.waits (steady : Steady able) (positive : 0 < capacity) {event : SinkEvent}
    (waits : event = .flush ∨ event = .close)
    (rationed : Rationed able template capacity alive history flusher) :
    ∃ flusher', Rationed able template capacity alive (history.next event) flusher' := by
  -- On the lines in the queue: the call may wait until the first of them is received.
  induction queued : flusher.queue generalizing history flusher with
  | nil => exact rationed.of_empty steady positive queued waits
  | cons line rest ih =>
    obtain ⟨received, rationed', queue⟩ := rationed.move steady positive .receive
    have later := ih rationed' (by rw [queue, queued]; rfl)
    -- A sink with lines in its queue is open.
    obtain ⟨batches, waiting, holds, -⟩ := rationed
    have opened : history.sink.closed = false := by
      by_contra shut
      rw [(holds.shut (by simpa using shut)).2] at queued
      cases queued
    rwa [history.next_of_receive opened waits] at later

theorem Rationed.next (steady : Steady able) (positive : 0 < capacity)
    (rationed : Rationed able template capacity alive history flusher) (event : SinkEvent) :
    ∃ flusher', Rationed able template capacity alive (history.next event) flusher' := by
  cases event with
  | write bag =>
    obtain ⟨batches, waiting, holds, fits⟩ := rationed
    obtain ⟨flusher', holds', -⟩ := holds.write bag
    exact ⟨flusher', batches, waiting, holds', fits⟩
  | flush => exact rationed.waits steady positive (.inl rfl)
  | close => exact rationed.waits steady positive (.inr rfl)
  | move which =>
    obtain ⟨flusher', rationed', -⟩ := rationed.move steady positive which
    exact ⟨flusher', rationed'⟩

theorem Rationed.run (steady : Steady able) (positive : 0 < capacity)
    (rationed : Rationed able template capacity alive history flusher)
    (events : List SinkEvent) :
    ∃ flusher', Rationed able template capacity alive (history.run events) flusher' := by
  induction events generalizing history flusher with
  | nil => exact ⟨flusher, rationed⟩
  | cons event rest ih =>
    obtain ⟨flusher', rationed'⟩ := rationed.next steady positive event
    exact ih rationed'

end SinkHistory

/-! ### What a stream and its surroundings keep -/

section

variable [ByteStream δ ε] {P : δ → ε → Prop}

/-- One stream by itself, while something is kept. -/
theorem ByteStream.KeepsIn.apart (keeps : ByteStream.KeepsIn P) :
    Apart fun n (stream : δ) (around : ε) stream' around' =>
      n = 0 ∧ stream' = stream ∧ around' = around ∧ P stream around := by
  constructor
  · rintro n stream around _ _ bytes ⟨rfl, rfl, rfl, kept⟩
    refine ⟨rfl, rfl, ⟨rfl, rfl, rfl, keeps.writeAll _ _ bytes kept⟩, ?_⟩
    rintro m other _ _ _ ⟨own, -⟩
    exact absurd own other
  · rintro n stream around _ _ ⟨rfl, rfl, rfl, kept⟩
    refine ⟨rfl, rfl, ⟨rfl, rfl, rfl, keeps.flush _ _ kept⟩, ?_⟩
    rintro m other _ _ _ ⟨own, -⟩
    exact absurd own other
  · rintro n stream around _ _ ⟨rfl, rfl, rfl, kept⟩
    refine ⟨⟨rfl, rfl, rfl, keeps.release _ _ kept⟩, ?_⟩
    rintro m other _ _ _ ⟨own, -⟩
    exact absurd own other

/-- Whatever happens to a sink, its stream keeps what each call on it keeps. -/
theorem SinkHistory.keeps_run (keeps : ByteStream.KeepsIn P) {history : SinkHistory δ ε}
    (kept : P history.sink.stream history.around) (events : List SinkEvent) :
    P (history.run events).sink.stream (history.run events).around := by
  induction events generalizing history with
  | nil => exact kept
  | cons event rest ih =>
    have alike := (Sink.handle_agrees keeps.apart ⟨rfl, rfl, rfl, kept⟩ event).stream
    exact ih alike.2.2.2

end

/-! ### Groups of lines -/

/-- The lines that a sink may hand to its stream at once. -/
def Delivery.AtOnce : Delivery → List ByteArray → Prop
  | direct, lines => lines.length = 1
  | batched _ capacity, lines => FitsUpToLast capacity lines

/-- Whether a flusher can be started, if one is asked for. -/
def Delivery.Possible : Delivery → Prop
  | direct => True
  | batched _ capacity => 0 < capacity ∧ capacity ≤ Flusher.greatestCapacity

def Request.bytes? : Request → Option ByteArray
  | write bytes => some bytes
  | flush => none

theorem Asked.bytes?_request (call : Asked) : call.request.bytes? = call.written? := by
  cases call with
  | write bytes taken => rfl
  | flush passed => rfl

namespace SinkEvent

/-- Before the first close a direct sink has its stream write every line. -/
theorem bytes_of_requests (template : Template) {before : List SinkEvent}
    (opened : .close ∉ before) (later : List SinkEvent) :
    (requests template false before).filterMap Request.bytes? =
      (written (before ++ .close :: later)).map template.bytes := by
  induction before with
  | nil => rfl
  | cons event rest ih =>
    have rest_opened := ih fun member => opened (List.mem_cons_of_mem event member)
    rw [List.cons_append, written_cons, requests, List.filterMap_append]
    cases event with
    | close => exact absurd List.mem_cons_self opened
    | write bag =>
      rw [List.map_append]
      exact congrArg (template.bytes bag :: ·) rest_opened
    | flush => exact rest_opened
    | move which => exact rest_opened

/-- A direct sink that has been closed had its stream write every line and then flush. -/
theorem requests_of_close (template : Template) {events : List SinkEvent}
    (closing : .close ∈ events) :
    ∃ earlier n, requests template false events = earlier ++ .replicate (n + 1) .flush ∧
      earlier.filterMap Request.bytes? = (written events).map template.bytes := by
  obtain ⟨before, later, rfl, opened⟩ := List.eq_append_cons_of_mem closing
  have none_closes : before.any isClose = false := by
    rw [← Bool.not_eq_true, any_isClose]
    exact opened
  refine ⟨requests template false before, later.countP isFlush, ?_, ?_⟩
  · rw [requests_append, none_closes]
    simp [requests, request?, isClose, requests_of_closed, List.replicate_succ]
  · exact bytes_of_requests template opened later

end SinkEvent

namespace SinkHistory

variable [ByteStream δ ε]

theorem direct_groups (template : Template) (stream : δ) (around : ε) {events : List SinkEvent}
    (closing : .close ∈ events) :
    let reached := ((ofStream template (Watched.of stream) .direct around).run events).sink.stream
    reached.attempts = (SinkEvent.written events).map template.bytes ∧
      ∀ call ∈ reached.asked.getLast?, call.written? = none := by
  intro reached
  have start : (ofStream template (Watched.of stream) .direct around).sink =
      ⟨template, .direct (Watched.of stream), false⟩ := rfl
  obtain ⟨current, shape, asked⟩ := direct_run start events
  obtain ⟨earlier, n, requests, lines⟩ := SinkEvent.requests_of_close template closing
  have same : reached = current := congrArg Sink.stream shape
  have asked : current.asked.map Asked.request = earlier ++ .replicate (n + 1) .flush :=
    asked.trans requests
  rw [same]
  constructor
  · have attempts : current.attempts =
        (current.asked.map Asked.request).filterMap Request.bytes? := by
      rw [Watched.attempts, List.filterMap_map]
      exact List.filterMap_congr fun call _ => call.bytes?_request.symm
    rw [attempts, asked, List.filterMap_append, lines]
    simp [Request.bytes?]
  · -- The last request was one to flush.
    intro call last
    have flushed : (current.asked.map Asked.request).getLast? = some call.request := by
      rw [List.getLast?_map, Option.mem_def.mp last]
      rfl
    rw [asked, List.getLast?_append, List.getLast?_replicate, if_neg (Nat.succ_ne_zero n)] at flushed
    rw [← call.bytes?_request, ← Option.some.inj flushed]
    rfl

variable {able : Watched δ → Prop}

theorem batched_groups (steady : Steady able) {stream : δ} (sort : able (.of stream))
    (template : Template) (interval : Duration) {capacity : Nat} (positive : 0 < capacity)
    (fits : capacity ≤ Flusher.greatestCapacity) (around : ε) {events : List SinkEvent}
    (closing : .close ∈ events) :
    let reached := ((ofStream template (Watched.of stream) (.batched interval capacity)
      around).run events).sink.stream
    ∃ groups : List (List ByteArray), reached.attempts = groups.map joined ∧
      groups.flatten = (SinkEvent.written events).map template.bytes ∧
      (∀ group ∈ groups, FitsUpToLast capacity group) ∧
      ((∀ call ∈ reached.asked, call.done = true) →
        ∀ call ∈ reached.asked.getLast?, call.written? = none) := by
  intro reached
  obtain ⟨first, begun, -⟩ := holds_ofStream steady sort template interval capacity around
  obtain ⟨flusher, batches, waiting, holds, rationed⟩ :=
    Rationed.run steady positive ⟨[], [], begun, nofun⟩ events
  obtain ⟨-, -, -, -, -, shut, accepted⟩ :=
    holds_run steady sort template interval capacity around events
  -- The sink is closed, so every line is in a batch.
  obtain ⟨rfl, empty⟩ := holds.shut (shut closing)
  have lines := holds.carries.lines
  rw [empty, List.append_nil, List.append_nil, accepted fits] at lines
  have same : reached = flusher.stream := by
    simp only [reached, Sink.stream, holds.target]
  have asked := holds.carries.asked
  rw [same]
  refine ⟨batches.map Batch.lines, ?_, ?_, ?_, fun done => ?_⟩
  · rw [attempts_of_batches asked, List.map_map]
    rfl
  · rw [lines, List.flatMap_def]
  · intro group member
    obtain ⟨batch, inside, rfl⟩ := List.mem_map.mp member
    exact rationed batch inside
  · -- A batch that was taken ends with a flush.
    intro call last
    rw [asked] at done last
    rcases List.eq_nil_or_concat' batches with rfl | ⟨earlier, batch, rfl⟩
    · cases last
    · rw [List.flatMap_append, List.flatMap_singleton] at done last
      cases taken : batch.taken with
      | false =>
        have failed := done (.write batch.bytes false) (by simp [Batch.calls, taken])
        cases failed
      | true =>
        rw [Batch.calls, if_pos taken] at last
        obtain rfl : Asked.flush batch.passed = call := by simpa using last
        rfl

/-- **What reaches a stream.** -/
theorem lines_reach_in_groups (steady : Steady able) {stream : δ} (sort : able (.of stream))
    (template : Template) {delivery : Delivery} (possible : delivery.Possible) (around : ε)
    {events : List SinkEvent} (closing : .close ∈ events) :
    let reached := ((ofStream template (Watched.of stream) delivery around).run events).sink.stream
    ∃ groups : List (List ByteArray), reached.attempts = groups.map joined ∧
      groups.flatten = (SinkEvent.written events).map template.bytes ∧
      (∀ group ∈ groups, delivery.AtOnce group) ∧
      ((∀ call ∈ reached.asked, call.done = true) →
        ∀ call ∈ reached.asked.getLast?, call.written? = none) := by
  cases delivery with
  | direct =>
    obtain ⟨attempts, last⟩ := direct_groups template stream around closing
    refine ⟨(SinkEvent.written events).map fun bag => [template.bytes bag], ?_, ?_, ?_,
      fun _ => last⟩
    · rw [attempts, List.map_map]
      exact List.map_congr_left fun bag _ => (RollingFile.joined_singleton _).symm
    · rw [← List.flatMap_def]
      exact List.flatMap_pure_eq_map template.bytes _
    · intro group member
      obtain ⟨bag, -, rfl⟩ := List.mem_map.mp member
      rfl
  | batched interval capacity =>
    exact batched_groups steady sort template interval possible.1 possible.2 around closing

end SinkHistory

end Tapline
