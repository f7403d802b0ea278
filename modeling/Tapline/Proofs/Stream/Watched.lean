import Tapline.Stream.Host
/-!
# Watching a stream

Whoever watches a stream sees what it was asked to write, when it was asked to flush, and whether
it did. Watching changes none of its answers. What is proved about every stream that is watched
therefore tells what reaches any stream at all.
-/

namespace Tapline

/-- A call on a stream, and whether it succeeded. -/
inductive Asked where
  | write (bytes : ByteArray) (taken : Bool)
  | flush (passed : Bool)

/-- The bytes of a call to write. -/
def Asked.written? : Asked → Option ByteArray
  | write bytes _ => some bytes
  | flush _ => none

/-- Whether a call succeeded. -/
def Asked.done : Asked → Bool
  | write _ taken => taken
  | flush passed => passed

/-- A stream, with the calls that have reached it and how often it was given up. -/
structure Watched (δ : Type u) where
  inner : δ
  asked : List Asked
  released : Nat

namespace Watched

variable {δ : Type u} {ε : Type v}

/-- A stream that is watched from now on. -/
def of (stream : δ) : Watched δ := ⟨stream, [], 0⟩

/-- Everything that the stream was asked to write, whether it did or not. -/
def attempts (stream : Watched δ) : List ByteArray := stream.asked.filterMap Asked.written?

/-- Adds a call, given the answer of the stream itself. -/
def keep (stream : Watched δ) (step : StreamStep δ ε) (call : Bool → Asked) :
    StreamStep (Watched δ) ε :=
  ⟨step.result, { stream with
    inner := step.stream, asked := stream.asked ++ [call step.result.isOk] },
    step.around, step.notices⟩

instance [ByteStream δ ε] : ByteStream (Watched δ) ε where
  writeAll stream around bytes :=
    stream.keep (ByteStream.writeAll stream.inner around bytes) (.write bytes)
  flush stream around := stream.keep (ByteStream.flush stream.inner around) .flush
  release stream around :=
    let (inner, around) := ByteStream.release stream.inner around
    ({ stream with inner, released := stream.released + 1 }, around)

variable [ByteStream δ ε]

@[simp] theorem asked_writeAll (stream : Watched δ) (around : ε) (bytes : ByteArray) :
    (ByteStream.writeAll stream around bytes).stream.asked =
      stream.asked ++ [.write bytes (ByteStream.writeAll stream around bytes).result.isOk] := rfl

@[simp] theorem asked_flush (stream : Watched δ) (around : ε) :
    (ByteStream.flush stream around).stream.asked =
      stream.asked ++ [.flush (ByteStream.flush stream around).result.isOk] := rfl

@[simp] theorem asked_release (stream : Watched δ) (around : ε) :
    (ByteStream.release stream around).1.asked = stream.asked := rfl

@[simp] theorem released_writeAll (stream : Watched δ) (around : ε) (bytes : ByteArray) :
    (ByteStream.writeAll stream around bytes).stream.released = stream.released := rfl

@[simp] theorem released_flush (stream : Watched δ) (around : ε) :
    (ByteStream.flush stream around).stream.released = stream.released := rfl

@[simp] theorem released_release (stream : Watched δ) (around : ε) :
    (ByteStream.release stream around).1.released = stream.released + 1 := rfl

@[simp] theorem attempts_writeAll (stream : Watched δ) (around : ε) (bytes : ByteArray) :
    (ByteStream.writeAll stream around bytes).stream.attempts = stream.attempts ++ [bytes] := by
  simp [attempts, Asked.written?]

@[simp] theorem attempts_flush (stream : Watched δ) (around : ε) :
    (ByteStream.flush stream around).stream.attempts = stream.attempts := by
  simp [attempts, Asked.written?]

@[simp] theorem attempts_release (stream : Watched δ) (around : ε) :
    (ByteStream.release stream around).1.attempts = stream.attempts := rfl

end Watched

/-! ### What streams keep -/

/-- The bytes that a notice reports as lost, if it reports a loss. -/
def Notice.loss? : Notice → Option Nat
  | batchDropped bytes _ | finalBatchLost bytes _ => some bytes
  | _ => none

/-- What a stream keeps through every call on it. -/
structure ByteStream.Keeps {δ : Type u} {ε : Type v} [ByteStream δ ε] (P : δ → Prop) : Prop where
  writeAll : ∀ stream around bytes, P stream → P (writeAll stream around bytes).stream
  flush : ∀ stream around, P stream → P (flush stream around).stream
  release : ∀ stream around, P stream → P (release stream around).1

/-- What a stream and its surroundings keep through every call on it. -/
structure ByteStream.KeepsIn {δ : Type u} {ε : Type v} [ByteStream δ ε] (P : δ → ε → Prop) :
    Prop where
  writeAll : ∀ stream around bytes, P stream around →
    P (writeAll stream around bytes).stream (writeAll stream around bytes).around
  flush : ∀ stream around, P stream around → P (flush stream around).stream (flush stream around).around
  release : ∀ stream around, P stream around → P (release stream around).1 (release stream around).2

/-- A sort of streams that refuse at worst. They do not crash, and they leave it to the flusher to
tell of its losses. -/
structure Steady {δ : Type u} {ε : Type v} [ByteStream δ ε] (able : δ → Prop) : Prop where
  keeps : ByteStream.Keeps able
  writeAll : ∀ stream around bytes, able stream →
    (∀ cause, (ByteStream.writeAll stream around bytes).result ≠ .error (.crashed cause)) ∧
      ∀ notice ∈ (ByteStream.writeAll stream around bytes).notices, notice.loss? = none
  flush : ∀ stream around, able stream →
    (∀ cause, (ByteStream.flush stream around).result ≠ .error (.crashed cause)) ∧
      ∀ notice ∈ (ByteStream.flush stream around).notices, notice.loss? = none

/-- A sort of streams that never refuse, by what they hold. -/
structure Obliging {δ : Type u} {ε : Type v} [ByteStream δ ε] (able : δ → Prop)
    (content : δ → ByteArray) : Prop where
  keeps : ByteStream.Keeps able
  writeAll : ∀ stream around bytes, able stream →
    (ByteStream.writeAll stream around bytes).result = .ok () ∧
      content (ByteStream.writeAll stream around bytes).stream = content stream ++ bytes
  flush : ∀ stream around, able stream →
    (ByteStream.flush stream around).result = .ok () ∧
      content (ByteStream.flush stream around).stream = content stream
  release : ∀ stream around, able stream →
    content (ByteStream.release stream around).1 = content stream

/-- Streams that take all the bytes of a write or nothing of them, by what they hold. -/
structure AllOrNothing {δ : Type u} {ε : Type v} [ByteStream δ ε] (able : δ → Prop)
    (content : δ → ByteArray) : Prop where
  keeps : ByteStream.Keeps able
  writeAll : ∀ stream around bytes, able stream →
    content (ByteStream.writeAll stream around bytes).stream =
      content stream ++ if (ByteStream.writeAll stream around bytes).result.isOk then bytes else .empty
  flush : ∀ stream around, able stream →
    content (ByteStream.flush stream around).stream = content stream
  release : ∀ stream around, able stream →
    content (ByteStream.release stream around).1 = content stream

section

variable {δ : Type u} {ε : Type v} [ByteStream δ ε] {able : δ → Prop}

theorem ByteStream.Keeps.watched {P : δ → Prop} (keeps : ByteStream.Keeps P) :
    ByteStream.Keeps fun stream : Watched δ => P stream.inner :=
  ⟨fun stream => keeps.writeAll stream.inner, fun stream => keeps.flush stream.inner,
    fun stream => keeps.release stream.inner⟩

theorem Steady.watched (steady : Steady able) :
    Steady fun stream : Watched δ => able stream.inner :=
  ⟨steady.keeps.watched, fun stream => steady.writeAll stream.inner,
    fun stream => steady.flush stream.inner⟩

theorem AllOrNothing.watched {content : δ → ByteArray} (whole : AllOrNothing able content) :
    AllOrNothing (fun stream : Watched δ => able stream.inner)
      fun stream => content stream.inner :=
  ⟨whole.keeps.watched, fun stream => whole.writeAll stream.inner,
    fun stream => whole.flush stream.inner, fun stream => whole.release stream.inner⟩

end

end Tapline
