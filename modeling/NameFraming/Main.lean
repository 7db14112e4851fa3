import NameFraming.CommandLine

/-! The `lwframe` command. It reads the files that it may need, lets `CommandLine.runWith` decide
what becomes of them, and then writes and prints. -/

namespace NameFraming.Main

def bytes (content : ByteArray) : Bytes :=
  content.toList

def asString (text : Text) : String :=
  String.ofList text

def diskError : IO.Error → DiskError
  | .alreadyExists _ number reason
  | .invalidArgument _ number reason
  | .permissionDenied _ number reason
  | .resourceExhausted _ number reason
  | .inappropriateType _ number reason
  | .noSuchThing _ number reason => .system number.toNat reason.toList
  | .interrupted _ number reason
  | .noFileOrDirectory _ number reason => .system number.toNat reason.toList
  | .otherError number reason
  | .resourceBusy number reason
  | .resourceVanished number reason
  | .unsupportedOperation number reason
  | .hardwareFault number reason
  | .unsatisfiedConstraints number reason
  | .illegalOperation number reason
  | .protocolError number reason
  | .timeExpired number reason => .system number.toNat reason.toList
  | error => .other error.toString.toList

/-- The variables among `NAME=value` entries that end in a zero byte. -/
def environmentIn (content : Bytes) : Environment :=
  (content.splitOn 0).filterMap fun entry =>
    let text := Utf8.repair entry
    match text.dropWhile (· ≠ '=') with
    | _ :: value => some (text.takeWhile (· ≠ '='), value)
    | [] => none

/-- The variables of this run. Where the system does not list them, those of the settings are asked
for by name. -/
def environment : IO Environment := do
  match ← (IO.FS.readBinFile "/proc/self/environ").toBaseIO with
  | .ok content => return environmentIn (bytes content)
  | .error _ =>
      Settings.fieldNames.filterMapM fun field => do
        let name := upper (Settings.variableName field)
        return (← IO.getEnv (asString name)).map fun value => (name, value.toList)

def addFile (disk : Disk) (location : Location) (path : Path) : IO Disk := do
  match ← (IO.FS.readBinFile (asString path.toText)).toBaseIO with
  | .ok content => return disk.put location (.file (bytes content))
  | .error error =>
      let known := disk.put location (.file [])
      return { known with readErrors := (path.name, diskError error) :: known.readErrors }

def addWay (disk : Disk) (path : Path) : IO Disk :=
  (List.range (path.parts.length + 1)).foldlM (fun held count => do
    let step : Path := { path with parts := path.parts.take count }
    match held.locate step, ← (System.mkFilePath [asString step.toText]).isDir with
    | .ok location, true => return held.put location .directory
    | _, _ => return held) disk

/-- Adds the files directly inside a directory. All else in it counts as a directory. -/
def addFiles (disk : Disk) (directory : Path) : IO Disk := do
  match disk.locate directory with
  | .error _ => return disk
  | .ok location =>
      match ← (System.mkFilePath [asString directory.toText]).readDir.toBaseIO with
      | .error _ => return disk
      | .ok entries =>
          entries.foldlM (fun held entry => do
            let name := entry.fileName.toList
            match ← entry.path.metadata.toBaseIO with
            | .ok { type := .file, .. } =>
                addFile held (location ++ [name]) (directory.child name)
            | .ok _ => return held.put (location ++ [name]) .directory
            | .error _ => return held) disk

def bindingsOnly : IO Disk := do
  let path := Path.ofText ".env".toList
  if ← (System.mkFilePath [asString path.toText]).pathExists then addFile {} path.parts path
  else return {}

/-- Writes files, up to the first that cannot be written. -/
def writeAll : List (Path × Bytes) → IO (Option (Text × DiskError))
  | [] => return none
  | (path, content) :: rest => do
      match ← (IO.FS.writeBinFile (asString path.toText) ⟨content.toArray⟩).toBaseIO with
      | .ok _ => writeAll rest
      | .error error => return some (path.name, diskError error)

/-- Runs the command and writes what it says. A file that cannot be written is made known to the
disk, and the run is decided anew. -/
def perform (settings : Settings) (arguments : List Text) :
    Nat → Disk → IO (Except StartupError CommandLine.Run)
  | 0, disk => return CommandLine.runWith settings arguments none disk
  | attempts + 1, disk => do
      match CommandLine.runWith settings arguments none disk with
      | .error error => return .error error
      | .ok run =>
          match ← writeAll run.writes with
          | none => return .ok run
          | some failure =>
              perform settings arguments attempts
                { disk with writeErrors := failure :: disk.writeErrors }

def lineText : LogLine → Text
  | .plain text => text
  | .record value => value.toJson

def failureLines : StartupError → List String
  | .settings (.invalid issues) =>
      issues.map fun issue => "lwframe: " ++ issue.fault.message
  | .settings error => ["lwframe: " ++ error.message]
  | .log error => ["lwframe: " ++ error.message]

def diskFor (settings : Settings) (arguments : List Text) : IO Disk := do
  match Arguments.parse settings arguments with
  | .ok (.arguments parsed) =>
      let directory := Path.ofText parsed.directory
      addFiles (← addWay {} directory) directory
  | _ => return {}

def run (arguments : List Text) : IO (Except StartupError CommandLine.Run) := do
  match loadSettings (← environment) (CommandLine.envFile? (← bindingsOnly)) with
  | .error error => return .error error
  | .ok settings =>
      let disk ← diskFor settings arguments
      perform settings arguments disk.nodes.length disk

end NameFraming.Main

def main (arguments : List String) : IO UInt32 := do
  match ← NameFraming.Main.run (arguments.map String.toList) with
  | .error error =>
      for line in NameFraming.Main.failureLines error do
        IO.eprintln line
      return 1
  | .ok run =>
      for line in run.errors do
        IO.eprintln (String.ofList (NameFraming.Main.lineText line))
      IO.print (String.ofList run.output)
      if let some failure := run.failure then
        IO.eprintln (String.ofList failure.message)
      return run.exitCode.toUInt32
