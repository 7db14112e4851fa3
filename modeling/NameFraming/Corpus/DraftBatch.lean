import NameFraming.Corpus.Breakdown
import NameFraming.Framer.Draft

/-! Programs and corpora under a framer with an unwritten rule. The first text that reaches the
framer ends the work. -/

namespace NameFraming

namespace Draft

def frameProgram (draft : Draft) (answer : Option String) (bytes : Bytes) :
    List Event × Except DraftError Envelope :=
  let decoded := decodeProgram answer bytes
  let framed := draft.frame decoded.text
  (framed.1, framed.2.map (Envelope.ofOutcome decoded.report))

/-- Frames one file. A file that cannot be read does not reach the framer. -/
def frameFile (draft : Draft) (options : BatchOptions) (disk : Disk) (path : Path) :
    List Event × Except DraftError FileRun :=
  let run := draft.framer.frameFile options disk path
  if draft.complete then (run.events, .ok run)
  else
    match disk.read path with
    | .error _ => (run.events, .ok run)
    | .ok bytes =>
        ((draft.frame (decodeProgram options.answer bytes).text).1, .error .unwrittenRule)

def eventsBefore (draft : Draft) (options : BatchOptions) (disk : Disk) (directory : Path)
    (files : List Path) : List Event :=
  BatchRun.discoveredEvent directory (.text options.suffix) files ::
    (files.takeWhile (!disk.isReadable ·)).flatMap fun file =>
      (draft.framer.frameFile options disk file).events

/-- Frames every program of a directory, up to the first one that can be read. -/
def frameCorpus (draft : Draft) (options : BatchOptions) (disk : Disk) (directory : Path) :
    Except CorpusError (List Event × Except DraftError BatchRun) := do
  let run ← draft.framer.frameCorpus options disk directory
  if draft.complete then .ok (run.events, .ok run)
  else
    let files ← discover disk directory options.suffix
    match files.find? disk.isReadable with
    | none => .ok (run.events, .ok run)
    | some path =>
        let events :=
          draft.eventsBefore options disk directory files ++ (draft.frameFile options disk path).1
        .ok (events, .error .unwrittenRule)

/-- Where a batch is broken off, if it is. An unwritten rule ends it before any later file can break
it off. -/
def brokenBatch? (draft : Draft) (options : BatchOptions) (disk : Disk) (directory : Path) :
    Option BrokenBatch :=
  if draft.complete then draft.framer.brokenBatch? options disk directory
  else
    match discoveryBreakdown? disk directory options.suffix,
        discover disk directory options.suffix with
    | some cause, _ => some { cause, disk }
    | none, .error _ => none
    | none, .ok files =>
        ((files.find? disk.isReadable).bind (fileBreakdown? options disk)).map fun cause =>
          { cause, disk, events := draft.eventsBefore options disk directory files }

end Draft

end NameFraming
