import NameFraming.Corpus.Batch
import NameFraming.Text.Quoted

/-! What ends a whole batch instead of failing one file of it: paths and names that cannot even be
handed on. Where nothing of the kind is found, a batch runs to its report. -/

namespace NameFraming

inductive Breakdown where
  | nullInPath
  | nullInEncodingName
  | pathTooLong (path : Path)
deriving DecidableEq

def Breakdown.message : Breakdown → Text
  | nullInPath => DiskError.nullByte.reason
  | nullInEncodingName => EncodingError.nullCharacter.message.toList
  | pathTooLong path =>
      "[Errno 36] ".toList ++ DiskError.nameTooLong.reason ++ [':', ' '] ++ path.toText.quoted

/-- A file breaks a batch off if its path cannot be opened, or if it needs a detector's answer that
cannot be looked up. -/
def fileBreakdown? (options : BatchOptions) (disk : Disk) (path : Path) : Option Breakdown :=
  match disk.read path with
  | .error .nullByte => some .nullInPath
  | .error _ => none
  | .ok bytes => (answerError? options.answer bytes).map fun _ => .nullInEncodingName

def pathBreakdown? (disk : Disk) (path : Path) : Option Breakdown :=
  match disk.locate path with
  | .error .nameTooLong => some (.pathTooLong path)
  | _ => none

/-- What keeps a corpus from being discovered: the directory is looked at, and then everything in it
whose name has the suffix. -/
def discoveryBreakdown? (disk : Disk) (directory : Path) (suffix : Text) : Option Breakdown :=
  match pathBreakdown? disk directory, disk.locate directory with
  | some cause, _ => some cause
  | none, .error _ => none
  | none, .ok location =>
      if disk.node? location = some .directory then
        ((disk.entryNames location).filter fun name => suffix.isSuffixOf name).findSome? fun name =>
          pathBreakdown? disk (directory.child name)
      else none

/-- Writing breaks down if the text can be encoded but the path cannot be opened. -/
def writeBreakdown? (disk : Disk) (path : Path) (encoding : Encoding) (text : Text) :
    Option Breakdown :=
  match (encoding.encode text).toOption.map (disk.write path) with
  | some (.error .nullByte) => some .nullInPath
  | _ => none

structure BrokenBatch where
  cause : Breakdown
  disk : Disk
  writes : List (Path × Bytes) := []
  events : List Event := []

/-- Where a batch is broken off, if it is. The files before are framed as ever. -/
def Framer.brokenBatch? (framer : Framer) (options : BatchOptions) (disk : Disk)
    (directory : Path) : Option BrokenBatch :=
  match discoveryBreakdown? disk directory options.suffix,
      discover disk directory options.suffix with
  | some cause, _ => some { cause, disk }
  | none, .error _ => none
  | none, .ok files =>
      (files.findSome? (fileBreakdown? options disk)).map fun cause =>
        let sound := files.takeWhile fun path => (fileBreakdown? options disk path).isNone
        let (after, runs) := framer.frameFiles options disk sound
        { cause
          disk := after
          writes := runs.flatMap FileRun.writes
          events :=
            BatchRun.discoveredEvent directory (.text options.suffix) files ::
              runs.flatMap FileRun.events }

end NameFraming
