import Tapline.RollingFile
import Tapline.Stream.Scripted
/-!
# The streams of a host

On a host, records go to memory, to the terminal or to rolling files; for trying things out there
are also streams that refuse everything, crash, or follow a script. The host's disk and terminal
are shared by all of them.
-/

namespace Tapline

/-- What the streams of a program share. -/
structure Host where
  disk : Disk
  terminal : ByteArray

instance : Inhabited Host := ⟨⟨.empty, .empty⟩⟩

/-- A stream of a host. -/
inductive HostStream where
  | memory (content : ByteArray)
  | terminal
  | rejecting
  | crashing
  | scripted (stream : ScriptedStream)
  | rolling (file : RollingFile)

namespace HostStream

private def simple (result : Except IOFault Unit) (stream : HostStream) (host : Host) :
    StreamStep HostStream Host :=
  ⟨result.mapError .refused, stream, host, []⟩

private def ofRolling (step : RollingStep Unit) (host : Host) : StreamStep HostStream Host :=
  ⟨step.result, .rolling step.file, { host with disk := step.disk }, step.notices⟩

/-- Writes all of the bytes. No bytes make no call, except to a rolling file, which may rotate. -/
def writeAll (stream : HostStream) (host : Host) (bytes : ByteArray) :
    StreamStep HostStream Host :=
  match stream with
  | memory content => simple (.ok ()) (memory (content ++ bytes)) host
  | terminal => simple (.ok ()) terminal { host with terminal := host.terminal ++ bytes }
  | rejecting =>
    simple (if bytes.isEmpty then .ok () else .error (.other "write rejected")) rejecting host
  | crashing =>
    if bytes.isEmpty then simple (.ok ()) crashing host
    else ⟨.error (.crashed .streamCrashed), crashing, host, []⟩
  | scripted s =>
    let (result, s) := s.writeAll bytes
    simple result (scripted s) host
  | rolling file => ofRolling (file.writeAll host.disk bytes) host

/-- Passes on everything written. -/
def flush (stream : HostStream) (host : Host) : StreamStep HostStream Host :=
  match stream with
  | rejecting => simple (.error (.other "flush rejected")) rejecting host
  | scripted s =>
    let (result, s) := s.flush
    simple result (scripted s) host
  | rolling file => ofRolling (file.flush host.disk) host
  | stream => simple (.ok ()) stream host

/-- Gives a stream up; a rolling file is closed. -/
def release (stream : HostStream) (host : Host) : HostStream × Host :=
  match stream with
  | rolling file =>
    let (file, disk) := file.close host.disk
    (rolling file, { host with disk })
  | stream => (stream, host)

instance : ByteStream HostStream Host := ⟨writeAll, flush, release⟩

end HostStream

end Tapline
