import Tapline.Proofs.Disk.Slots
import Tapline.Stream.Host
/-!
# Streams that are apart

Streams share their surroundings, so that one of several streams cannot be compared with the same
stream alone by equality: the surroundings are other ones. They are compared by a relation that says
what the stream at a place can tell of the surroundings. Streams are apart if alike streams answer
alike, and if what a call on one of them does to the surroundings goes unnoticed at all others.

## Main result

`apart_host`: the streams of a host are apart if there is one rolling file at most, and one stream
to the terminal. All others keep what they are given to themselves.
-/

namespace Tapline

variable {δ : Type u} {ε : Type v}

/-- A change of the surroundings that streams at some places cannot tell. -/
def Unnoticed (alike : Nat → δ → ε → δ → ε → Prop) (places : Nat → Prop) (before after : ε) :
    Prop :=
  ∀ n, places n → ∀ stream stream' around', alike n stream before stream' around' →
    alike n stream after stream' around'

namespace Unnoticed

variable {alike : Nat → δ → ε → δ → ε → Prop} {places fewer : Nat → Prop} {before middle after : ε}

theorem refl (around : ε) : Unnoticed alike places around around :=
  fun _ _ _ _ _ same => same

theorem trans (first : Unnoticed alike places before middle)
    (second : Unnoticed alike places middle after) : Unnoticed alike places before after := by
  intro n member stream stream' around' same
  exact second n member stream stream' around' (first n member stream stream' around' same)

theorem mono (unnoticed : Unnoticed alike places before after) (among : ∀ n, fewer n → places n) :
    Unnoticed alike fewer before after :=
  fun n member => unnoticed n (among n member)

end Unnoticed

/-- The answer of the stream at a place, and that of an alike stream in surroundings of its own. -/
structure StreamStep.Agrees (alike : Nat → δ → ε → δ → ε → Prop) (n : Nat) (before : ε)
    (step step' : StreamStep δ ε) : Prop where
  result : step'.result = step.result
  notices : step'.notices = step.notices
  stream : alike n step.stream step.around step'.stream step'.around
  unnoticed : Unnoticed alike (· ≠ n) before step.around

/-- Streams at different places that have nothing to do with each other. -/
structure Apart [ByteStream δ ε] (alike : Nat → δ → ε → δ → ε → Prop) : Prop where
  writeAll : ∀ n stream around stream' around' bytes, alike n stream around stream' around' →
    (ByteStream.writeAll stream around bytes).Agrees alike n around
      (ByteStream.writeAll stream' around' bytes)
  flush : ∀ n stream around stream' around', alike n stream around stream' around' →
    (ByteStream.flush stream around).Agrees alike n around (ByteStream.flush stream' around')
  release : ∀ n stream around stream' around', alike n stream around stream' around' →
    alike n (ByteStream.release stream around).1 (ByteStream.release stream around).2
        (ByteStream.release stream' around').1 (ByteStream.release stream' around').2 ∧
      Unnoticed alike (· ≠ n) around (ByteStream.release stream around).2

/-! ### The streams of a host -/

namespace HostStream

/-- The same stream, given the places of the one that has the disk and of the one that has the
terminal. -/
def Alike (onDisk onTerminal n : Nat) (stream : HostStream) (host : Host) (stream' : HostStream)
    (host' : Host) : Prop :=
  stream' = stream ∧
    match stream with
    | rolling _ => n = onDisk ∧ host'.disk = host.disk
    | terminal => n = onTerminal ∧ host'.terminal = host.terminal
    | _ => True

variable {onDisk onTerminal n : Nat} {host : Host}

theorem unnoticed_disk (disk : Disk) (own : n = onDisk) :
    Unnoticed (Alike onDisk onTerminal) (· ≠ n) host { host with disk } := by
  intro m other stream stream' host' same
  obtain ⟨rfl, seen⟩ := same
  refine ⟨rfl, ?_⟩
  cases stream' with
  | rolling file => exact absurd (seen.1.trans own.symm) other
  | terminal => exact seen
  | _ => trivial

theorem unnoticed_terminal (terminal : ByteArray) (own : n = onTerminal) :
    Unnoticed (Alike onDisk onTerminal) (· ≠ n) host { host with terminal } := by
  intro m other stream stream' host' same
  obtain ⟨rfl, seen⟩ := same
  refine ⟨rfl, ?_⟩
  cases stream' with
  | rolling file => exact seen
  | terminal => exact absurd (seen.1.trans own.symm) other
  | _ => trivial

theorem apart_host (onDisk onTerminal : Nat) : Apart (Alike onDisk onTerminal) := by
  constructor
  · rintro n stream host stream' ⟨disk', terminal'⟩ bytes ⟨rfl, seen⟩
    cases stream' with
    | rolling file =>
      obtain ⟨own, rfl⟩ := seen
      exact ⟨rfl, rfl, ⟨rfl, own, rfl⟩, unnoticed_disk _ own⟩
    | terminal =>
      obtain ⟨own, rfl⟩ := seen
      exact ⟨rfl, rfl, ⟨rfl, own, rfl⟩, unnoticed_terminal _ own⟩
    | crashing =>
      -- Whether it crashes depends on the bytes alone.
      have answers : ∀ host : Host, ByteStream.writeAll crashing host bytes =
          ⟨if bytes.isEmpty then .ok () else .error (.crashed .streamCrashed), crashing, host,
            []⟩ := by
        intro host
        by_cases nothing : bytes.isEmpty = true
        · rw [if_pos nothing]
          exact if_pos nothing
        · rw [if_neg nothing]
          exact if_neg nothing
      rw [answers, answers]
      exact ⟨rfl, rfl, ⟨rfl, trivial⟩, .refl host⟩
    | _ => exact ⟨rfl, rfl, ⟨rfl, trivial⟩, .refl host⟩
  · rintro n stream host stream' ⟨disk', terminal'⟩ ⟨rfl, seen⟩
    cases stream' with
    | rolling file =>
      obtain ⟨own, rfl⟩ := seen
      exact ⟨rfl, rfl, ⟨rfl, own, rfl⟩, unnoticed_disk _ own⟩
    | terminal => exact ⟨rfl, rfl, ⟨rfl, seen⟩, .refl host⟩
    | _ => exact ⟨rfl, rfl, ⟨rfl, trivial⟩, .refl host⟩
  · rintro n stream host stream' ⟨disk', terminal'⟩ ⟨rfl, seen⟩
    cases stream' with
    | rolling file =>
      obtain ⟨own, rfl⟩ := seen
      exact ⟨⟨rfl, own, rfl⟩, unnoticed_disk _ own⟩
    | terminal => exact ⟨⟨rfl, seen⟩, .refl host⟩
    | _ => exact ⟨⟨rfl, trivial⟩, .refl host⟩

/-- What can be read of what a stream was given. -/
def held (stream : HostStream) (host : Host) : ByteArray :=
  match stream with
  | memory content => content
  | terminal => host.terminal
  | scripted script => script.calls.foldl (fun taken call =>
      match call with
      | .wrote bytes => taken ++ bytes
      | _ => taken) .empty
  | rolling file => (host.disk.contentAt? file.location).getD .empty
  | rejecting | crashing => .empty

theorem held_of_alike {stream stream' : HostStream} {host' : Host}
    (same : Alike onDisk onTerminal n stream host stream' host') :
    stream.held host = stream'.held host' := by
  obtain ⟨rfl, seen⟩ := same
  cases stream' with
  | rolling file => rw [held, held, seen.2]
  | terminal => exact seen.2.symm
  | _ => rfl

end HostStream

end Tapline
