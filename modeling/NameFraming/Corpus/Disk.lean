import NameFraming.Corpus.Path
import NameFraming.Encoding.Utf8

/-! Files and directories around a working directory. Single files may fail to be read or written.
-/

namespace NameFraming

inductive DiskNode where
  | directory
  | file (content : Bytes)
deriving DecidableEq

inductive DiskError where
  | missing
  | isDirectory
  | notDirectory
  | nameTooLong
  /-- The path holds a null character, at which it would end. -/
  | nullByte
  | system (number : Int) (reason : Text)
  | other (message : Text)
deriving DecidableEq

/-- An error of the system that gives no reason is shown by its number. -/
def DiskError.reason : DiskError → Text
  | missing => "No such file or directory".toList
  | isDirectory => "Is a directory".toList
  | notDirectory => "Not a directory".toList
  | nameTooLong => "File name too long".toList
  | nullByte => "embedded null byte".toList
  | system number reason =>
      if reason.isEmpty then s!"[Errno {number}] ".toList else reason
  | other message => message

/-- The components that lead to a node: from the working directory, first upwards and then down, or
from the root, which is a slash. -/
abbrev Location := List Text

namespace Location

def root : Location := [['/']]

/-- One step up. There is nothing above the root. -/
def parent (location : Location) : Location :=
  match location.getLast? with
  | none => [['.', '.']]
  | some last =>
      if last = ['.', '.'] then location ++ [last]
      else if last = ['/'] then location
      else location.dropLast

def step (location : Location) (part : Text) : Location :=
  if part = ['.', '.'] then location.parent else location ++ [part]

end Location

/-- What stands where, and the names of files that cannot be read or written. There are no links: no
two locations share one file, and what is written at one is not seen at another. Directories can
always be listed and looked into. That files are framed apart from one another, and that a check
foretells a run, is shown for such disks only. -/
structure Disk where
  nodes : List (Location × DiskNode) := []
  readErrors : List (Text × DiskError) := []
  writeErrors : List (Text × DiskError) := []

namespace Disk

/-- What stands at a location. The working directory, those above it and the root are always there.
-/
def node? (disk : Disk) (location : Location) : Option DiskNode :=
  if location.all (· == ['.', '.']) || location == Location.root then some .directory
  else disk.nodes.lookup location

/-- The longest name of a file, in bytes. -/
def longestName : Nat := 255

def longestPath : Nat := 4095

/-- Follows components from a location on; every one but the last must be a directory. -/
def follow (disk : Disk) (location : Location) : List Text → Except DiskError Location
  | [] => .ok location
  | part :: rest =>
      match disk.node? location with
      | some .directory =>
          if longestName < (Utf8.encode part).length then .error .nameTooLong
          else disk.follow (location.step part) rest
      | some (.file _) => .error .notDirectory
      | none => .error .missing

def locate (disk : Disk) (path : Path) : Except DiskError Location :=
  if path.toText.contains '\x00' then .error .nullByte
  else if longestPath < (Utf8.encode path.toText).length then .error .nameTooLong
  else disk.follow (if path.anchor.isEmpty then [] else .root) path.parts

def find? (disk : Disk) (path : Path) : Option DiskNode :=
  match disk.locate path with
  | .ok location => disk.node? location
  | .error _ => none

def isDirectory (disk : Disk) (path : Path) : Bool :=
  disk.find? path == some .directory

def content (disk : Disk) (path : Path) : Except DiskError Bytes := do
  match disk.node? (← disk.locate path) with
  | some (.file content) => .ok content
  | some .directory => .error .isDirectory
  | none => .error .missing

/-- Reads a file, unless files of its name cannot be read. -/
def read (disk : Disk) (path : Path) : Except DiskError Bytes :=
  match disk.readErrors.lookup path.name with
  | some error => .error error
  | none => disk.content path

def isReadable (disk : Disk) (path : Path) : Bool :=
  match disk.read path with
  | .ok _ => true
  | .error _ => false

def put (disk : Disk) (location : Location) (node : DiskNode) : Disk :=
  { disk with
    nodes :=
      if disk.nodes.any (·.1 == location) then
        disk.nodes.map fun entry => if entry.1 == location then (location, node) else entry
      else disk.nodes ++ [(location, node)] }

/-- Writes a file, unless files of its name cannot be written. The directory must be there. -/
def write (disk : Disk) (path : Path) (content : Bytes) : Except DiskError Disk := do
  match disk.writeErrors.lookup path.name with
  | some error => .error error
  | none =>
      let location ← disk.locate path
      match disk.node? location with
      | some .directory => .error .isDirectory
      | _ => .ok (disk.put location (.file content))

/-- Makes the directories on a way from a location, and gives the last of them too. -/
def makeDirectories (disk : Disk) (made : Location) : List Text → Disk × Location
  | [] => (disk, made)
  | part :: rest =>
      let next := made.step part
      let held := if (disk.node? next).isSome then disk else disk.put next .directory
      held.makeDirectories next rest

/-- Places a node at a path, together with the directories above it. What is always there stays. -/
def place (disk : Disk) (path : Path) (node : DiskNode) : Disk :=
  let (held, directory) := disk.makeDirectories [] path.parts.dropLast
  if path.parts.isEmpty then disk else held.put (directory.step path.name) node

def remove (disk : Disk) (path : Path) : Disk :=
  match disk.locate path with
  | .ok location => { disk with nodes := disk.nodes.filter (!location.isPrefixOf ·.1) }
  | .error _ => disk

/-- Whether anything stands directly inside a directory. Above the working directory there is at
least the way down to it. -/
def hasEntries (disk : Disk) (directory : Location) : Bool :=
  directory == Location.root ||
    (!directory.isEmpty && directory.all (· == ['.', '.'])) ||
    disk.nodes.any fun entry => !entry.1.isEmpty && entry.1.dropLast == directory

def entryNames (disk : Disk) (directory : Location) : List Text :=
  disk.nodes.filterMap fun (location, _) =>
    if !location.isEmpty && location.dropLast == directory then location.getLast? else none

def fileNames (disk : Disk) (directory : Location) : List Text :=
  disk.nodes.filterMap fun (location, node) =>
    match node with
    | .file _ =>
        if !location.isEmpty && location.dropLast == directory then location.getLast? else none
    | .directory => none

end Disk

end NameFraming
