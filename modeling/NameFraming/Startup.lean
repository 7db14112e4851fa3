import NameFraming.Log
import NameFraming.Settings.Load

/-! What a program needs before it can do anything: its settings and its log. -/

namespace NameFraming

inductive StartupError where
  | settings (error : SettingsError)
  | log (error : LogError)

def loadSettings (environment : Environment) (envFile : Option Bytes) :
    Except StartupError Settings :=
  (Settings.load [] environment envFile).mapError .settings

def startLog (level : Option Text) (json : Bool) : Except StartupError LogFormat :=
  match level with
  | some name => (LogFormat.ofLevel name json).mapError .log
  | none => .error (.log .noLevel)

end NameFraming
