import NameFraming.Corpus.Category
import NameFraming.Corpus.Disk
import NameFraming.Corpus.Problem
import NameFraming.Corpus.Report
import NameFraming.Framer.Events
import NameFraming.Program

/-! Framing the files of a corpus. A file is rewritten only when framing changes it, in the
encoding it was read with. What goes wrong with one file is recorded and does not stop the others.
-/

namespace NameFraming

/-- The programs directly inside a directory, in the order of their names. -/
def discover (disk : Disk) (directory : Path) (suffix : Text) : Except CorpusError (List Path) :=
  match disk.locate directory with
  | .ok location =>
      if disk.node? location = some .directory then
        let names := (disk.fileNames location).filter fun name => suffix.isSuffixOf name
        .ok ((names.mergeSort fun left right => !decide (right < left)).map directory.child)
      else .error .notDirectory
  | .error _ => .error .notDirectory

structure BatchOptions where
  suffix : Text := ['.', 'l', 'w']
  write : Bool := true
  /-- What the detector answers about bytes that are not UTF-8: a name that is one of `Encoding` or of
  no encoding. -/
  answer : Option String := none

def encodeProgram (encoding : Encoding) (name : String) (text : Text) : Except CorpusError Bytes :=
  match encoding.encode text with
  | .ok bytes => .ok bytes
  | .error reason => .error (.unencodable name reason)

/-- Writes a program. Nothing is opened before all of it is encoded. -/
def writeProgram (disk : Disk) (path : Path) (encoding : Encoding) (name : String) (text : Text) :
    Except CorpusError (Disk × Bytes) := do
  let bytes ← encodeProgram encoding name text
  match disk.write path bytes with
  | .ok after => .ok (after, bytes)
  | .error error => .error (.unwritable error.reason)

structure FileRun where
  outcome : FileOutcome
  disk : Disk
  writes : List (Path × Bytes) := []
  events : List Event

namespace FileRun

def blankOutcome (path : Path) (suffix : Text) : FileOutcome :=
  { name := path.name
    category := (categorize path suffix).1
    subcategory := (categorize path suffix).2
    status := .unchanged }

def failedEvent (path : Path) (error : CorpusError) : Event :=
  { level := .warning
    name := "corpus_file_failed"
    source := "lwframe.driver"
    fields :=
      [("file", .text path.name), ("code", .ofString error.code),
        ("error", .text (error.message path))] }

/-- A file that failed keeps what was found out about it before. -/
def failed (disk : Disk) (path : Path) (outcome : FileOutcome) (events : List Event)
    (error : CorpusError) : FileRun :=
  { outcome :=
      { outcome with status := .failed, error := some (error.problem path).display }
    disk
    events := events ++ [failedEvent path error] }

def doneEvent (outcome : FileOutcome) (written : Bool) : Event :=
  { level := .info
    name := if outcome.status = .fixed then "corpus_file_fixed" else "corpus_file_unchanged"
    source := "lwframe.driver"
    fields :=
      [("file", .text outcome.name), ("identifiers_framed", .int outcome.identifiersFramed),
        ("written", .bool written)] }

end FileRun

def correctionCounts (counts : Counts) : List (Text × Int) :=
  counts.nonzero.map fun (rule, count) => (rule.toList, (count : Int))

/-- What is done with a program once it is framed. Text that had to be repaired is never written. -/
def finishFile (options : BatchOptions) (disk : Disk) (path : Path) (decoded : DecodedProgram)
    (result : Outcome) (outcome : FileOutcome) (events : List Event) : FileRun :=
  let fixed := { outcome with status := FileStatus.fixed }
  if !result.changed then
    { outcome, disk, events := events ++ [FileRun.doneEvent outcome false] }
  else if decoded.report.fallback then
    .failed disk path outcome events .undecodable
  else if options.write then
    match writeProgram disk path decoded.encoding decoded.report.used result.text with
    | .ok (after, bytes) =>
        { outcome := fixed
          disk := after
          writes := [(path, bytes)]
          events := events ++ [FileRun.doneEvent fixed true] }
    | .error error => .failed disk path outcome events error
  else
    { outcome := fixed, disk, events := events ++ [FileRun.doneEvent fixed false] }

def Framer.frameFile (framer : Framer) (options : BatchOptions) (disk : Disk) (path : Path) :
    FileRun :=
  let blank := FileRun.blankOutcome path options.suffix
  match disk.read path with
  | .error error => .failed disk path blank [] (.unreadable error.reason)
  | .ok bytes =>
      let decoded := decodeProgram options.answer bytes
      let result := framer.frame decoded.text
      let outcome :=
        { blank with
          encoding := some decoded.report.used.toList
          identifiersFramed := result.identifiersFramed
          corrections := correctionCounts result.corrections }
      finishFile options disk path decoded result outcome (framer.events decoded.text)

structure BatchRun where
  report : Report
  disk : Disk
  writes : List (Path × Bytes)
  events : List Event

def Framer.frameFiles (framer : Framer) (options : BatchOptions) (disk : Disk) :
    List Path → Disk × List FileRun
  | [] => (disk, [])
  | path :: rest =>
      let run := framer.frameFile options disk path
      let later := framer.frameFiles options run.disk rest
      (later.1, run :: later.2)

namespace BatchRun

def discoveredEvent (directory : Path) (suffix : Value) (files : List Path) : Event :=
  { level := .info
    name := "corpus_discovered"
    source := "lwframe.driver"
    fields :=
      [("directory", .text directory.toText), ("files", .ofNat files.length),
        ("suffix", suffix)] }

def framedEvent (report : Report) : Event :=
  { level := .info
    name := "corpus_framed"
    source := "lwframe.driver"
    fields := report.summary.totals }

end BatchRun

/-- Frames every program of a directory. Only a directory that is not there is an error. -/
def Framer.frameCorpus (framer : Framer) (options : BatchOptions) (disk : Disk)
    (directory : Path) : Except CorpusError BatchRun := do
  let files ← discover disk directory options.suffix
  let (after, runs) := framer.frameFiles options disk files
  let report : Report :=
    { directory := directory.toText
      suffix := options.suffix
      written := options.write
      files := runs.map FileRun.outcome }
  return {
    report
    disk := after
    writes := runs.flatMap FileRun.writes
    events :=
      BatchRun.discoveredEvent directory (.text options.suffix) files ::
        (runs.flatMap FileRun.events ++ [BatchRun.framedEvent report]) }

end NameFraming
