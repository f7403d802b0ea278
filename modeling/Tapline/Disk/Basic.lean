import Tapline.Disk.Path
import Tapline.Failure
/-!
# A disk

A disk holds directories and files below a root directory. A name leads to a file by number, and
the file's bytes are kept under that number: who has a file open keeps writing to the same bytes
when the name is moved or removed. Each operation either changes the disk as a whole or refuses
with the first fault that the path meets; only the making of several directories may stop midway.

A fault of a path text as such comes first, then the first step that does not lead to a directory,
and then what is wrong with the last name.
-/

namespace Tapline

/-- What a path leads to. -/
inductive Node where
  | file (inode : Nat)
  | directory
deriving DecidableEq, Repr

/-- Directories and files. -/
structure Disk where
  nodes : List (Path × Node)
  contents : Array ByteArray

namespace Disk

/-- Nothing but the root directory. -/
def empty : Disk := ⟨[], #[]⟩

instance : Inhabited Disk := ⟨empty⟩

/-! ### Looking -/

def node? (disk : Disk) (path : Path) : Option Node :=
  if path.isEmpty then some .directory else disk.nodes.lookup path

/-- The bytes of a file by number. -/
def bytes (disk : Disk) (inode : Nat) : ByteArray := (disk.contents[inode]?).getD .empty

def content? (disk : Disk) (path : Path) : Option ByteArray :=
  match disk.node? path with
  | some (.file inode) => some (disk.bytes inode)
  | _ => none

/-- The most bytes that a name may have. -/
def greatestName : Nat := 255

/-- What a name in a directory leads to. -/
def find (disk : Disk) (directory : Path) (name : String) : Except IOFault (Option Node) :=
  if greatestName < name.utf8ByteSize then .error .nameTooLong
  else .ok (disk.node? (directory ++ [name]))

/-- The directory that a step from a directory leads to; the root has none outside. -/
def follow (disk : Disk) (directory : Path) : PathStep → Except IOFault Path
  | .out => .ok directory.dropLast
  | .into name => do
    match ← disk.find directory name with
    | some .directory => .ok (directory ++ [name])
    | some (.file _) => .error .notADirectory
    | none => .error .notFound

def walk (disk : Disk) (way : List PathStep) : Except IOFault Path := way.foldlM disk.follow []

/-- Faults of a path text as such. -/
def checkText (location : Location) : Except IOFault Unit :=
  let nul (step : PathStep) : Bool :=
    match step with
    | .out => false
    | .into name => name.toList.any (· == '\x00')
  -- A zero byte is met before the length of the text.
  if location.steps.any nul then .error .nulInName
  else if Location.greatestSize < location.size then .error .nameTooLong
  else .ok ()

/-- The directory in which the last name of a location is looked up. -/
def reach (disk : Disk) (location : Location) : Except IOFault Path := do
  checkText location
  disk.walk location.way

/-- The path of a location and what it leads to. -/
def resolve (disk : Disk) (location : Location) : Except IOFault (Path × Option Node) := do
  let directory ← disk.reach location
  match location.name with
  | none => .ok (directory, some .directory)
  | some name => return (directory ++ [name], ← disk.find directory name)

/-- Whether a location leads anywhere. -/
def holds (disk : Disk) (location : Location) : Bool :=
  match disk.resolve location with
  | .ok (_, some .directory) => true
  | .ok (_, some (.file _)) => !location.slash
  | _ => false

def isDirectory (disk : Disk) (location : Location) : Bool :=
  match disk.resolve location with
  | .ok (_, some .directory) => true
  | _ => false

/-! ### Changing -/

/-- Lets a path lead to a node. -/
def setNode (disk : Disk) (path : Path) (node : Node) : Disk :=
  { disk with nodes := (path, node) :: disk.nodes.filter (fun entry => entry.1 != path) }

/-- Lets no path into a tree lead anywhere. -/
def dropTree (disk : Disk) (path : Path) : Disk :=
  { disk with nodes := disk.nodes.filter (fun entry => !path.isPrefixOf entry.1) }

def append (disk : Disk) (inode : Nat) (added : ByteArray) : Disk :=
  { disk with contents := disk.contents.modify inode (· ++ added) }

def overwrite (disk : Disk) (inode : Nat) (bytes : ByteArray) : Disk :=
  { disk with contents := disk.contents.modify inode (fun _ => bytes) }

/-- Makes an empty file at a path. -/
def addFile (disk : Disk) (path : Path) : Nat × Disk :=
  let inode := disk.contents.size
  (inode, { disk.setNode path (.file inode) with contents := disk.contents.push .empty })

/-- The file at a location, made empty if there is none. -/
def openFile (disk : Disk) (location : Location) : Except IOFault (Nat × Disk) := do
  let directory ← disk.reach location
  match location.name with
  | none => .error .isADirectory
  | some name =>
    if location.slash then .error .isADirectory
    else
      match ← disk.find directory name with
      | some .directory => .error .isADirectory
      -- Whoever has the file open already writes to the same bytes.
      | some (.file inode) => .ok (inode, disk)
      | none => .ok (disk.addFile (directory ++ [name]))

/-- Empties the file at a location, or makes one. -/
def truncate (disk : Disk) (location : Location) : Except IOFault Disk := do
  let (inode, disk) ← disk.openFile location
  return disk.overwrite inode .empty

/-- Removes a file; a directory is refused. -/
def removeFile (disk : Disk) (location : Location) : Except IOFault Disk := do
  match ← disk.resolve location with
  | (_, some .directory) => .error .isADirectory
  | (path, some (.file _)) =>
    if location.slash then .error .notADirectory else .ok (disk.dropTree path)
  | (_, none) => .error .notFound

def makeDirectory (disk : Disk) (location : Location) : Except IOFault Disk := do
  match ← disk.resolve location with
  | (_, some _) => .error .alreadyExists
  | (path, none) => .ok (disk.setNode path .directory)

/-- Makes one directory unless there is one. -/
def ensureDirectory (disk : Disk) (location : Location) : Except IOFault Disk :=
  match disk.makeDirectory location with
  | .ok disk => .ok disk
  | .error fault => if disk.isDirectory location then .ok disk else .error fault

/-- Makes a directory and at most so many before it. The innermost one is tried first, so a file on
the way is met as a parent, and a file in its place as itself. -/
def makeWithin (location : Location) (disk : Disk) : Nat → Except IOFault Unit × Disk
  | 0 => (.ok (), disk)
  | before + 1 =>
    let made (disk : Disk) : Except IOFault Unit × Disk :=
      match disk.ensureDirectory location with
      | .ok disk => (.ok (), disk)
      | .error fault => (.error fault, disk)
    -- Only a parent that is missing is made; any other fault stands.
    match made disk with
    | (.error .notFound, disk) =>
      match makeWithin location.parent disk before with
      | (.ok (), disk) => made disk
      | stopped => stopped
    | result => result

/-- Makes a directory and those on the way to it; directories may exist already. -/
def makeDirectories (disk : Disk) (location : Location) : Except IOFault Unit × Disk :=
  makeWithin location disk (location.steps.length + 1)

def isInhabited (disk : Disk) (path : Path) : Bool :=
  disk.nodes.any (fun entry => path.isPrefixOf entry.1 && entry.1 != path)

/-- Lets a path lead where another one led, with all that lies below. -/
def moveTree (disk : Disk) (source target : Path) : Disk :=
  { disk with nodes := (disk.dropTree target).nodes.map fun entry =>
      if source.isPrefixOf entry.1 then (target ++ entry.1.drop source.length, entry.2)
      else entry }

/-- Moves a node to a path, in place of a file or of an empty directory. -/
def replace (disk : Disk) (source target : Path) : Except IOFault Disk :=
  match disk.node? source, disk.node? target with
  | none, _ => .error .notFound
  | some (.file _), some .directory => .error .isADirectory
  | some .directory, some (.file _) => .error .notADirectory
  | some .directory, some .directory =>
    if source = target then .ok disk
    else if disk.isInhabited target then .error .directoryNotEmpty
    else .ok (disk.moveTree source target)
  | some (.file a), some (.file b) =>
    -- The file is there already.
    if a = b then .ok disk else .ok (disk.moveTree source target)
  | some _, none => .ok (disk.moveTree source target)

/-- Moves what a location leads to, in place of a file or of an empty directory. Both must be
locations of names, and a missing source is met before a fault of the target's name. -/
def rename (disk : Disk) (source target : Location) : Except IOFault Disk := do
  checkText source
  checkText target
  -- Both directories are walked before a name is looked up in either.
  let here ← disk.walk source.way
  let there ← disk.walk target.way
  match source.name, target.name with
  | some old, some new =>
    match ← disk.find here old with
    | none => .error .notFound
    | some node =>
      -- Looked up for the fault of its text alone.
      discard (disk.find there new)
      if node ≠ .directory ∧ (source.slash ∨ target.slash) then .error .notADirectory
      else disk.replace (here ++ [old]) (there ++ [new])
  | _, _ => .error .busy

/-! ### As others see it -/

/-- Removes whatever a location leads to, directories with all they hold, and says whether that
succeeded. A directory that the text names by points is emptied; it cannot be removed itself, but it
is gone as well if the text led back out of what was removed. -/
def removeAll (disk : Disk) (location : Location) : Bool × Disk :=
  match disk.resolve location with
  | .ok (path, some node) =>
    match location.name with
    | some _ =>
      if node ≠ .directory ∧ location.slash then (false, disk) else (true, disk.dropTree path)
    | none =>
      let emptied : Disk :=
        { disk with nodes := disk.nodes.filter fun entry =>
            !(path.isPrefixOf entry.1 && entry.1 != path) }
      ((emptied.reach location).toOption.isNone, emptied)
  | _ => (false, disk)

/-- Puts a file in place, with the directories on the way to it. -/
def putFile (disk : Disk) (location : Location) (bytes : ByteArray) : Disk :=
  let (made, disk) := disk.makeDirectories location.parent
  match made, disk.openFile location with
  | .ok (), .ok (inode, disk) => disk.overwrite inode bytes
  | _, _ => disk

def putDirectory (disk : Disk) (location : Location) : Disk := (disk.makeDirectories location).2

/-- Every path with the bytes of its file, or nothing for a directory. -/
def listing (disk : Disk) : List (String × Option ByteArray) :=
  disk.nodes.map fun entry =>
    ("/".intercalate entry.1, match entry.2 with
      | .file inode => some (disk.bytes inode)
      | .directory => none)

end Disk

end Tapline
