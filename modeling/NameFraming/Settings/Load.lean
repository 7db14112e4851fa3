import NameFraming.Encoding.Utf8Fault
import NameFraming.Settings
import NameFraming.Settings.EnvFile
import NameFraming.Text.Lowercasing
import NameFraming.Value.Json

/-! Where settings come from: values given in the program, variables of the environment, and a
file of bindings. What is given first counts most. -/

namespace NameFraming

inductive SettingsSource where
  | environment
  | envFile

def SettingsSource.label : SettingsSource → String
  | environment => "EnvSettingsSource"
  | envFile => "DotEnvSettingsSource"

inductive SettingsError where
  | unreadable (field : String) (source : SettingsSource)
  /-- A list was written in JSON that is nested too deep, with a record innermost or not. -/
  | tooDeep (record : Bool)
  | undecodable (fault : Utf8.Fault)
  /-- A value is wrong, and cannot be shown because of the surrogates in it. -/
  | unshowable (codes : List Nat)
  | invalid (issues : List Issue)

namespace SettingsError

def message : SettingsError → String
  | unreadable field source =>
      s!"error parsing value for field \"{field}\" from source \"{source.label}\""
  | tooDeep record =>
      let kind := if record then "object" else "array"
      s!"maximum recursion depth exceeded while decoding a JSON {kind} from a unicode string"
  | undecodable fault => fault.message
  | unshowable codes => Utf8.refusal 1 codes
  | invalid _ => ""

def brokenWord? (issue : Issue) : Option (List Nat) :=
  match issue.fault with
  | .brokenWord codes => some codes
  | _ => none

/-- Issues are reported together, unless one of them cannot be shown. -/
def ofIssues (issues : List Issue) : SettingsError :=
  match issues.findSome? brokenWord? with
  | some codes => .unshowable codes
  | none => .invalid issues

end SettingsError

namespace Settings

/-- The variable that a setting is read from, in lower case. Variables match in any case. -/
def variableName (field : String) : Text :=
  "lwframe_".toList ++ field.toList

/-- What a source binds to a setting: of the variables that match it, the one first bound last. -/
def boundTo (bindings : List Binding) (field : String) : Option Text :=
  ((bindings.reverse.find? fun binding => lower binding.1 == variableName field).map
    Prod.snd).join

/-- The value of one setting in a source. A list that is written as `null` counts as not given. -/
def readField (source : SettingsSource) (bindings : List Binding) (field : String) :
    Except SettingsError (Option Value) :=
  match boundTo bindings field with
  | none => .ok none
  | some written =>
      if listFields.contains field then
        match Value.ofJson written with
        | .ok .null => .ok none
        | .ok value => .ok (some value)
        | .error .malformed => .error (.unreadable field source)
        | .error (.tooDeep record) => .error (.tooDeep record)
      else .ok (some (.text written))

def readFields (source : SettingsSource) (bindings : List Binding) :
    List String → Except SettingsError (List (String × Value))
  | [] => .ok []
  | field :: rest => do
      let value ← readField source bindings field
      let later ← readFields source bindings rest
      return match value with
        | some present => (field, present) :: later
        | none => later

def fileBindings (environment : Environment) (envFile : Option Bytes) :
    Except SettingsError (List Binding) :=
  match envFile.map Utf8.decode with
  | some (.ok source) => .ok (EnvFile.parse environment source)
  | some (.error fault) => .error (.undecodable fault)
  | none => .ok []

/-- Names of settings are given in any case. -/
def givenFields (given : List (String × Value)) : List (String × Value) :=
  given.map fun (name, value) => (String.ofList (lower name.toList), value)

/-- Loads settings. A file that is not text stops everything, and so does a list that cannot be
read, in the environment before the file; after that all fields are checked. -/
def load (given : List (String × Value)) (environment : Environment) (envFile : Option Bytes) :
    Except SettingsError Settings := do
  let fileBound ← fileBindings environment envFile
  let bindings := environment.map fun (name, value) => (name, some value)
  let fromEnvironment ← readFields .environment bindings fieldNames
  let fromFile ← readFields .envFile fileBound fieldNames
  match check (givenFields given ++ fromEnvironment ++ fromFile) with
  | .valid settings => .ok settings
  | .invalid issues => .error (.ofIssues issues)

end Settings

end NameFraming
