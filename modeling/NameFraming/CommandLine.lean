import NameFraming.CommandLine.Arguments
import NameFraming.Corpus.Breakdown
import NameFraming.Corpus.ReportCheck
import NameFraming.Startup
import NameFraming.Value.Json

/-! The command: frames the programs of a corpus directory and reports what became of them. -/

namespace NameFraming.CommandLine

def usage : List String :=
  ["usage: lwframe [-h] [--suffix SUFFIX] [--check] [--strict] [--json]",
    "               [--log-level LOG_LEVEL]",
    "               [directory]"]

def help : List String :=
  usage ++
    ["",
      "Frame bare identifiers in corpus programs.",
      "",
      "positional arguments:",
      "  directory             corpus directory",
      "",
      "options:",
      "  -h, --help            show this help message and exit",
      "  --suffix SUFFIX       corpus file suffix",
      "  --check               report files that would change, write nothing",
      "  --strict              exit 1 if any file could not be read or written",
      "  --json                print the batch report as JSON",
      "  --log-level LOG_LEVEL",
      "                        debug, info, warning, error"]

inductive RunFailure where
  | breakdown (cause : Breakdown)
  /-- There is a name, but no suffix to compare it with. -/
  | noSuffix
  /-- There is a report, but without a suffix it is none. -/
  | invalidReport (issues : List Issue)

def RunFailure.message : RunFailure → Text
  | breakdown cause => cause.message
  | noSuffix => "endswith first arg must be str or a tuple of str, not list".toList
  | invalidReport issues => [' '].intercalate (issues.map (·.fault.message.toList))

/-- What a run of the command leaves behind. One that fails says nothing more. -/
structure Run where
  exitCode : Nat
  output : Text := []
  errors : List LogLine := []
  disk : Disk
  writes : List (Path × Bytes) := []
  failure : Option RunFailure := none

def joinLines (lines : List Text) : Text :=
  lines.flatMap fun line => line ++ ['\n']

/-- Text for the error channel, without its empty lines. -/
def plainLines (text : Text) : List LogLine :=
  (text.lines.filter fun line => !line.isEmpty).map .plain

def fileLine (file : FileOutcome) : Text :=
  match file.status with
  | .fixed => '✓' :: ' ' :: file.name
  | .failed => '✗' :: ' ' :: (file.name ++ [':', ' '] ++ file.error.getD "None".toList)
  | _ => '-' :: ' ' :: (file.name ++ " (no changes)".toList)

def textReport (report : Report) : Text :=
  let verb := if report.written then "Fixed" else "Would fix"
  let totals := [[], s!"{verb} {report.fixed} files".toList]
  let errors := if report.failed = 0 then [] else [s!"Errors: {report.failed} files".toList]
  joinLines (report.files.map fileLine ++ totals ++ errors)

def jsonReport (report : Report) : Text :=
  joinLines [(Value.ofFields
    (report.toFields ++ [("summary", report.summary.toValue)])).toIndentedJson]

/-- With `--check` a file that would change is a failure, with `--strict` one that failed. -/
def exitCode (arguments : Arguments) (report : Report) : Nat :=
  if arguments.check && report.fixed != 0 then 1
  else if arguments.strict && report.failed != 0 then 1
  else 0

def unavailableEvent (problem : Problem) : Event :=
  { level := .error
    name := "corpus_unavailable"
    source := "lwframe.cli"
    fields := [("code", .text problem.code), ("path", .ofOption problem.path)] }

def unavailableRun (format : LogFormat) (directory : Path) (error : CorpusError) (disk : Disk) :
    Run :=
  let problem := error.problem directory
  { exitCode := 2
    errors :=
      format.lines [format.configured, unavailableEvent problem] ++
        plainLines ("[ERROR] ".toList ++ problem.display)
    disk }

def failedRun (format : LogFormat) (events : List Event) (failure : RunFailure) (disk : Disk) :
    Run :=
  { exitCode := 1
    errors := format.lines (format.configured :: events)
    disk
    failure := some failure }

/-- Runs without a suffix. The first name to compare with it ends the run, and where there is none
the report does. -/
def runWithoutSuffix (arguments : Arguments) (format : LogFormat) (disk : Disk) : Run :=
  let directory := Path.ofText arguments.directory
  match pathBreakdown? disk directory, disk.locate directory with
  | some cause, _ => failedRun format [] (.breakdown cause) disk
  | none, .error _ => unavailableRun format directory .notDirectory disk
  | none, .ok location =>
      if disk.node? location ≠ some .directory then
        unavailableRun format directory .notDirectory disk
      else if disk.hasEntries location then failedRun format [] .noSuffix disk
      else
        let fields : List (String × Value) :=
          [("directory", .text directory.toText), ("suffix", .list []),
            ("written", .bool !arguments.check)]
        let checked := Report.check (fields.map fun (key, value) => (key.toList, value))
        failedRun format [BatchRun.discoveredEvent directory (.list []) []]
          (.invalidReport checked.issues) disk

def runBatch (settings : Settings) (arguments : Arguments) (suffix : Text) (format : LogFormat)
    (answer : Option String) (disk : Disk) : Run :=
  let options : BatchOptions := { suffix, write := !arguments.check, answer }
  let directory := Path.ofText arguments.directory
  let framer := Framer.ofSettings settings
  match framer.brokenBatch? options disk directory, framer.frameCorpus options disk directory with
  | some broken, _ =>
      { failedRun format broken.events (.breakdown broken.cause) broken.disk with
        writes := broken.writes }
  | none, .error error => unavailableRun format directory error disk
  | none, .ok run =>
      { exitCode := exitCode arguments run.report
        output := if arguments.json then jsonReport run.report else textReport run.report
        errors := format.lines (format.configured :: run.events)
        disk := run.disk
        writes := run.writes }

def runWith (settings : Settings) (arguments : List Text) (answer : Option String) (disk : Disk) :
    Except StartupError Run :=
  match Arguments.parse settings arguments with
  | .error error =>
      .ok {
        exitCode := 2
        errors :=
          usage.map (fun line => LogLine.plain line.toList) ++
            plainLines ("lwframe: error: ".toList ++ error.message)
        disk }
  | .ok .help => .ok { exitCode := 0, output := joinLines (help.map String.toList), disk }
  | .ok (.arguments parsed) => do
      let format ← startLog parsed.logLevel settings.logJson
      return match parsed.suffix with
        | some suffix => runBatch settings parsed suffix format answer disk
        | none => runWithoutSuffix parsed format disk

/-- The bindings that the working directory holds for the settings. -/
def envFile? (disk : Disk) : Option Bytes :=
  (disk.content (.ofText ".env".toList)).toOption

/-- Runs the command. Settings come first: without them there is not even help. -/
def run (environment : Environment) (arguments : List Text) (answer : Option String)
    (disk : Disk) : Except StartupError Run := do
  let settings ← loadSettings environment (envFile? disk)
  runWith settings arguments answer disk

end NameFraming.CommandLine
