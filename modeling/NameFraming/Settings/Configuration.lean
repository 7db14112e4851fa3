import NameFraming.Framer.Events
import NameFraming.Program
import NameFraming.Settings.Load

/-! The configuration of a running session: settings are loaded when they are first needed, and kept
until they are dropped. -/

namespace NameFraming

structure Configuration where
  settings : Option Settings := none
  framer : Option Framer := none

namespace Configuration

/-- The settings in use. If there are none the loader is asked; its failure changes nothing. -/
def demandSettings (configuration : Configuration) (load : Except SettingsError Settings) :
    Configuration × Except SettingsError Settings :=
  match configuration.settings with
  | some settings => (configuration, .ok settings)
  | none =>
      match load with
      | .ok settings => ({ configuration with settings := some settings }, .ok settings)
      | .error error => (configuration, .error error)

def demandFramer (configuration : Configuration) (load : Except SettingsError Settings) :
    Configuration × Except SettingsError Framer :=
  match configuration.framer with
  | some framer => (configuration, .ok framer)
  | none =>
      match configuration.demandSettings load with
      | (loaded, .ok settings) =>
          let framer := Framer.ofSettings settings
          ({ loaded with framer := some framer }, .ok framer)
      | (loaded, .error error) => (loaded, .error error)

end Configuration

/-- What the detector answers about bytes that are not UTF-8. The names that it gives can be looked
up. -/
structure Detector where
  answer : Bytes → Option String
  lookedUp : ∀ bytes, answerError? (answer bytes) bytes = none

def Detector.silent : Detector where
  answer _ := none
  lookedUp bytes := by
    have found : Encoding.find (answeredEncoding none) = .ok .utf8 := rfl
    simp only [answerError?, Codecs.decodeProgram, Encoding.codecs.read_known found]
    cases (ownEncoding bytes).1.decode? bytes <;> cases Encoding.utf8.decode? bytes <;> rfl

structure Session where
  environment : Environment
  configuration : Configuration := {}
  detector : Detector := .silent

inductive SessionStep where
  | set (bindings : Environment)
  | unset (names : List Text)
  | reset
  | transform (text : Text)
  | isKeyword (word : Text)
  | frameProgram (bytes : Bytes)

inductive SessionAnswer where
  | done
  | text (value : Text)
  | truth (value : Bool)
  | envelope (value : Envelope)

structure SessionReply where
  events : List Event := []
  answer : Except SettingsError SessionAnswer

namespace Session

/-- Asks the framer of the settings in use; these come from the variables alone. -/
def ask (session : Session) (question : Framer → List Event × SessionAnswer) :
    Session × SessionReply :=
  match session.configuration.demandFramer (Settings.load [] session.environment none) with
  | (configuration, .ok framer) =>
      let (events, answer) := question framer
      ({ session with configuration }, ⟨events, .ok answer⟩)
  | (configuration, .error error) => ({ session with configuration }, ⟨[], .error error⟩)

def step (session : Session) : SessionStep → Session × SessionReply
  | .set bindings =>
      let environment := bindings.foldl (fun held (name, value) => held.set name value)
        session.environment
      ({ session with environment }, ⟨[], .ok .done⟩)
  | .unset names =>
      let environment := names.foldl Environment.unset session.environment
      ({ session with environment }, ⟨[], .ok .done⟩)
  | .reset => ({ session with configuration := {} }, ⟨[], .ok .done⟩)
  | .transform text =>
      session.ask fun framer => (framer.events text, .text (framer.transform text))
  | .isKeyword word => session.ask fun framer => ([], .truth (framer.isKeyword word))
  | .frameProgram bytes =>
      let answer := session.detector.answer bytes
      session.ask fun framer =>
        (framer.events (decodeProgram answer bytes).text,
          .envelope (framer.frameProgram answer bytes))

def run (session : Session) : List SessionStep → List SessionReply
  | [] => []
  | step :: steps =>
      let (next, reply) := session.step step
      reply :: next.run steps

end Session

end NameFraming
