import Tapline.Disk.OpenFile
import Tapline.Notice
import Tapline.Settings
import Tapline.Stream.Basic
/-!
# Rolling files

A rolling file is written at its end until a record would push it past its size limit. Then it
becomes the first backup, every older backup moves up by one, the oldest that may be kept is
removed, and an empty file takes its place. The limit is looked at once per record, so a record
is never split over two files, and a record longer than the limit has a file of its own.

Rotation goes from the oldest backup down, so every name it moves a file to has been vacated
before. A fault stops it where it is; the file is opened again at the next write.
-/

namespace Tapline

/-- A file that is rotated by size. -/
structure RollingFile where
  directory : String
  name : String
  limits : RollingLimits
  /-- The open file; none after a rotation that failed. -/
  active : Option OpenFile
  /-- Bytes in the active file, with those kept in memory. -/
  written : Nat

/-- A rolling file after a step, and what came of it. -/
structure RollingStep (α : Type u) where
  result : Except StreamFault α
  file : RollingFile
  disk : Disk
  notices : List Notice

namespace RollingFile

def path (file : RollingFile) : String := joinPath file.directory file.name

/-- The path of a backup; the first is the newest. -/
def backupPath (file : RollingFile) (n : Nat) : String := file.path ++ "." ++ toString n

def location (file : RollingFile) : Location := Location.ofText file.path

def backup (file : RollingFile) (n : Nat) : Location := file.location.numbered n

/-- The greatest buffer there can be. -/
def greatestBuffer : Nat := 0x7FFFFFFFFFFFFFFF

/-- Opens the active file at its end. -/
def reopen (file : RollingFile) (disk : Disk) : RollingStep Unit :=
  match disk.openFile file.location with
  | .error fault => ⟨.error (.refused fault), file, disk, []⟩
  | .ok (inode, disk) =>
    -- What an older run has left counts towards the limit.
    let written := (disk.bytes inode).size
    if greatestBuffer < file.limits.bufferSize then
      ⟨.error (.crashed .bufferTooLarge), { file with written }, disk, []⟩
    else
      ⟨.ok (), { file with written, active := some ⟨inode, .empty, max file.limits.bufferSize 1⟩ },
        disk, []⟩

/-- Whether so many more bytes would push the file past its limit. -/
def needsRotation (file : RollingFile) (incoming : Nat) : Bool :=
  -- An empty file is kept, however long the record is.
  0 < file.limits.rotateSize && 0 < file.written &&
    file.limits.rotateSize < file.written + incoming

/-- Moves the backups from a number down to the first one up by one. -/
def shiftBackups (file : RollingFile) : Nat → Disk → Except IOFault Unit × Disk
  | 0, disk => (.ok (), disk)
  | n + 1, disk =>
    -- The slot above has been vacated; a missing backup leaves a gap behind.
    if disk.holds (file.backup (n + 1)) then
      match disk.rename (file.backup (n + 1)) (file.backup (n + 2)) with
      | .error fault => (.error fault, disk)
      | .ok disk => shiftBackups file n disk
    else shiftBackups file n disk

/-- Removes the oldest backup that may be kept. -/
def dropOldest (file : RollingFile) (disk : Disk) : Except IOFault Disk :=
  if disk.holds (file.backup file.limits.maxFiles) then
    disk.removeFile (file.backup file.limits.maxFiles)
  else .ok disk

/-- Makes way for an empty active file. -/
def shift (file : RollingFile) (disk : Disk) : Except IOFault Unit × Disk :=
  if file.limits.maxFiles = 0 then
    -- Without backups the old records are dropped.
    match disk.truncate file.location with
    | .error fault => (.error fault, disk)
    | .ok disk => (.ok (), disk)
  else
    match file.dropOldest disk with
    | .error fault => (.error fault, disk)
    | .ok disk =>
      match file.shiftBackups (file.limits.maxFiles - 1) disk with
      | (.error fault, disk) => (.error fault, disk)
      | (.ok (), disk) =>
        match disk.rename file.location (file.backup 1) with
        | .error fault => (.error fault, disk)
        | .ok disk => (.ok (), disk)

/-- Sends what is kept to the disk. -/
def flush (file : RollingFile) (disk : Disk) : RollingStep Unit :=
  match file.active with
  | none => ⟨.ok (), file, disk, []⟩
  | some active =>
    let (active, disk) := active.flush disk
    ⟨.ok (), { file with active := some active }, disk, []⟩

/-- Closes the active file, keeping nothing back. -/
def close (file : RollingFile) (disk : Disk) : RollingFile × Disk :=
  let flushed := file.flush disk
  ({ flushed.file with active := none }, flushed.disk)

/-- Makes the active file the first backup and starts an empty one. -/
def rotate (file : RollingFile) (disk : Disk) : RollingStep Unit :=
  -- From here on no file is open; if a step fails, the next write opens one.
  let (file, disk) := file.close disk
  match file.shift disk with
  | (.error fault, disk) => ⟨.error (.refused fault), file, disk, []⟩
  | (.ok (), disk) =>
    let opened := file.reopen disk
    { opened with notices := .rotated file.path :: opened.notices }

/-- Opens the active file if it is not open. -/
def ensureOpen (file : RollingFile) (disk : Disk) : RollingStep Unit :=
  if file.active.isSome then ⟨.ok (), file, disk, []⟩ else file.reopen disk

/-- Writes bytes to the active file, whatever its size. -/
def write (file : RollingFile) (disk : Disk) (bytes : ByteArray) : RollingStep Nat :=
  let opened := file.ensureOpen disk
  match opened.result, opened.file.active with
  | .error fault, _ => ⟨.error fault, opened.file, opened.disk, opened.notices⟩
  | .ok (), none => ⟨.error (.refused (.other "log file is not open")), opened.file, opened.disk,
      opened.notices⟩
  | .ok (), some active =>
    let (active, disk) := active.write opened.disk bytes
    ⟨.ok bytes.size,
      { opened.file with active := some active, written := opened.file.written + bytes.size },
      disk, opened.notices⟩

/-- Writes a record, in a new file if it would push the active one past its limit. -/
def writeAll (file : RollingFile) (disk : Disk) (record : ByteArray) : RollingStep Unit :=
  -- The limit is looked at once, before the first byte.
  let ready : RollingStep Unit :=
    if file.needsRotation record.size then file.rotate disk else ⟨.ok (), file, disk, []⟩
  match ready.result with
  | .error fault => ⟨.error fault, ready.file, ready.disk, ready.notices⟩
  | .ok () =>
    let written := ready.file.write ready.disk record
    ⟨written.result.map (fun _ => ()), written.file, written.disk, ready.notices ++ written.notices⟩

/-- Opens a rolling file, making its directory if there is none. -/
def openIn (directory name : String) (limits : RollingLimits) (disk : Disk) :
    Except StreamFault RollingFile × Disk :=
  if name.isEmpty then (.error (.refused .emptyFileName), disk)
  else
    match disk.makeDirectories (Location.ofText directory) with
    | (.error fault, disk) => (.error (.refused fault), disk)
    | (.ok (), disk) =>
      let opened := (RollingFile.mk directory name limits none 0).reopen disk
      (opened.result.map (fun _ => opened.file), opened.disk)

end RollingFile

end Tapline
