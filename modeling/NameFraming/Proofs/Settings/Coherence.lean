import Mathlib.Data.List.Induction
import NameFraming.Settings.Configuration

/-! What a session remembers. Settings and framer are kept apart and are filled in by whichever
question comes first; still every question is answered by the framer of one load, the first that
succeeded since the session was last reset, and a load that failed leaves nothing behind. -/

namespace NameFraming

/-- The settings that the variables alone give. -/
def Environment.settings (environment : Environment) : Except SettingsError Settings :=
  Settings.load [] environment none

namespace SessionStep

/-- Whether a step asks the framer. -/
def isCall : SessionStep → Bool
  | transform _ => true
  | isKeyword _ => true
  | frameProgram _ => true
  | _ => false

/-- What a step makes of the variables. -/
def change (environment : Environment) : SessionStep → Environment
  | set bindings => bindings.foldl (fun held (name, value) => held.set name value) environment
  | unset names => names.foldl Environment.unset environment
  | _ => environment

/-- What a framer answers to a step. -/
def answerBy (detector : Detector) (framer : Framer) : SessionStep → SessionAnswer
  | transform text => .text (framer.transform text)
  | isKeyword word => .truth (framer.isKeyword word)
  | frameProgram bytes => .envelope (framer.frameProgram (detector.answer bytes) bytes)
  | _ => .done

end SessionStep

section History

variable {initial environment : Environment} {steps : List SessionStep} {step : SessionStep}
  {place : Nat} {settings : Settings}

/-- The variables after some steps. -/
def environmentAfter (initial : Environment) (steps : List SessionStep) : Environment :=
  steps.foldl SessionStep.change initial

theorem environmentAfter_concat :
    environmentAfter initial (steps ++ [step]) = step.change (environmentAfter initial steps) := by
  simp [environmentAfter]

/-- A call at this place, since the last reset, for which settings can be loaded. -/
structure LoadsAt (initial : Environment) (steps : List SessionStep) (place : Nat) : Prop where
  call : ∃ call, steps[place]? = some call ∧ call.isCall = true
  kept : SessionStep.reset ∉ steps.drop place
  valid : ∃ settings, (environmentAfter initial (steps.take place)).settings = .ok settings

/-- The environment of the first call since the last reset for which settings could be loaded. -/
def FirstLoad (initial : Environment) (steps : List SessionStep) (environment : Environment) :
    Prop :=
  ∃ place, LoadsAt initial steps place ∧ (∀ earlier < place, ¬ LoadsAt initial steps earlier) ∧
    environment = environmentAfter initial (steps.take place)

theorem LoadsAt.lt (loads : LoadsAt initial steps place) : place < steps.length := by
  obtain ⟨call, found, _⟩ := loads.call
  exact (List.getElem?_eq_some_iff.mp found).1

theorem loadsAt_concat_iff :
    LoadsAt initial (steps ++ [step]) place ↔
      LoadsAt initial steps place ∧ step ≠ .reset ∨
        place = steps.length ∧ step.isCall = true ∧
          ∃ settings, (environmentAfter initial steps).settings = .ok settings := by
  constructor
  · intro ⟨⟨call, found, isCall⟩, kept, valid⟩
    by_cases inside : place < steps.length
    · rw [List.getElem?_append_left inside] at found
      rw [List.drop_append_of_le_length (Nat.le_of_lt inside), List.mem_append, not_or] at kept
      rw [List.take_append_of_le_length (Nat.le_of_lt inside)] at valid
      exact .inl ⟨⟨⟨call, found, isCall⟩, kept.1, valid⟩,
        fun reset => kept.2 (List.mem_singleton.mpr reset.symm)⟩
    · have bound := (List.getElem?_eq_some_iff.mp found).1
      rw [List.length_append, List.length_singleton] at bound
      obtain rfl : place = steps.length := by omega
      rw [List.getElem?_concat_length] at found
      cases found
      rw [List.take_left] at valid
      exact .inr ⟨rfl, isCall, valid⟩
  · rintro (⟨loads, goesOn⟩ | ⟨rfl, isCall, valid⟩)
    · have inside := loads.lt
      obtain ⟨⟨call, found, isCall⟩, kept, valid⟩ := loads
      refine ⟨⟨call, by rw [List.getElem?_append_left inside]; exact found, isCall⟩, ?_, ?_⟩
      · rw [List.drop_append_of_le_length (Nat.le_of_lt inside), List.mem_append, not_or]
        exact ⟨kept, fun member => goesOn (List.mem_singleton.mp member).symm⟩
      · rw [List.take_append_of_le_length (Nat.le_of_lt inside)]
        exact valid
    · refine ⟨⟨step, List.getElem?_concat_length, isCall⟩, ?_, ?_⟩
      · rw [List.drop_left]
        intro member
        cases List.mem_singleton.mp member
        cases isCall
      · rw [List.take_left]
        exact valid

/-- The settings that are in use after some steps, if there are any. -/
def InUse (initial : Environment) (steps : List SessionStep) : Option Settings → Prop
  | some settings => ∃ environment, FirstLoad initial steps environment ∧
      environment.settings = .ok settings
  | none => ∀ place, ¬ LoadsAt initial steps place

theorem inUse_nil (initial : Environment) : InUse initial [] none := by
  intro place loads
  have bound := loads.lt
  simp at bound

theorem inUse_reset : InUse initial (steps ++ [.reset]) none := by
  intro place loads
  rcases loadsAt_concat_iff.mp loads with ⟨_, notReset⟩ | ⟨_, isCall, _⟩
  · exact notReset rfl
  · cases isCall

theorem FirstLoad.concat (first : FirstLoad initial steps environment) (goesOn : step ≠ .reset) :
    FirstLoad initial (steps ++ [step]) environment := by
  obtain ⟨place, loads, none, rfl⟩ := first
  have inside := loads.lt
  refine ⟨place, loadsAt_concat_iff.mpr (.inl ⟨loads, goesOn⟩), fun earlier before again => ?_, ?_⟩
  · rcases loadsAt_concat_iff.mp again with ⟨already, _⟩ | ⟨last, _⟩
    · exact none earlier before already
    · omega
  · rw [List.take_append_of_le_length (Nat.le_of_lt inside)]

theorem InUse.concat_some (inUse : InUse initial steps (some settings)) (goesOn : step ≠ .reset) :
    InUse initial (steps ++ [step]) (some settings) := by
  obtain ⟨environment, first, loaded⟩ := inUse
  exact ⟨environment, first.concat goesOn, loaded⟩

theorem InUse.concat_none (inUse : InUse initial steps none)
    (fails : step.isCall = true →
      ∀ settings, (environmentAfter initial steps).settings ≠ .ok settings) :
    InUse initial (steps ++ [step]) none := by
  intro place loads
  rcases loadsAt_concat_iff.mp loads with ⟨already, _⟩ | ⟨_, isCall, settings, loaded⟩
  · exact inUse place already
  · exact fails isCall settings loaded

theorem InUse.concat {held : Option Settings} (inUse : InUse initial steps held)
    (notReset : step ≠ .reset) (notCall : step.isCall = false) :
    InUse initial (steps ++ [step]) held := by
  cases held with
  | some settings => exact inUse.concat_some notReset
  | none => exact inUse.concat_none fun isCall => absurd isCall (by simp [notCall])

theorem InUse.load (inUse : InUse initial steps none) (isCall : step.isCall = true)
    (loaded : (environmentAfter initial steps).settings = .ok settings) :
    InUse initial (steps ++ [step]) (some settings) := by
  refine ⟨_, ⟨steps.length, loadsAt_concat_iff.mpr (.inr ⟨rfl, isCall, settings, loaded⟩), ?_, rfl⟩,
    by rw [List.take_left]; exact loaded⟩
  intro earlier before loads
  rcases loadsAt_concat_iff.mp loads with ⟨already, _⟩ | ⟨last, _⟩
  · exact inUse earlier already
  · omega

end History

/-- The configuration with these settings loaded, or with none. -/
def Configuration.holding : Option Settings → Configuration
  | some settings => { settings := some settings, framer := some (.ofSettings settings) }
  | none => {}

namespace Session

variable {initial : Environment} {detector : Detector} {steps : List SessionStep}
  {session : Session} {step : SessionStep} {question : Framer → List Event × SessionAnswer}

section Ask

variable {settings : Settings}

theorem ask_of_holding (holds : session.configuration = .holding (some settings)) :
    session.ask question =
      (session,
        ⟨(question (.ofSettings settings)).1, .ok (question (.ofSettings settings)).2⟩) := by
  obtain ⟨environment, configuration, detector⟩ := session
  subst holds
  rfl

theorem ask_of_load (empty : session.configuration = .holding none)
    (loaded : session.environment.settings = .ok settings) :
    session.ask question =
      ({ session with configuration := .holding (some settings) },
        ⟨(question (.ofSettings settings)).1, .ok (question (.ofSettings settings)).2⟩) := by
  rw [Environment.settings] at loaded
  rw [ask, empty, loaded]
  rfl

theorem ask_of_failure {error : SettingsError} (empty : session.configuration = .holding none)
    (failed : session.environment.settings = .error error) :
    session.ask question = (session, ⟨[], .error error⟩) := by
  obtain ⟨environment, configuration, detector⟩ := session
  subst empty
  rw [Environment.settings] at failed
  rw [ask, failed]
  rfl

theorem exists_ask (session : Session) (isCall : step.isCall = true) :
    ∃ question, session.step step = session.ask question ∧
      ∀ framer, (question framer).2 = step.answerBy session.detector framer := by
  cases step with
  | transform text =>
      exact ⟨fun framer => (framer.events text, .text (framer.transform text)), rfl, fun _ => rfl⟩
  | isKeyword word =>
      exact ⟨fun framer => ([], .truth (framer.isKeyword word)), rfl, fun _ => rfl⟩
  | frameProgram bytes =>
      let answer := session.detector.answer bytes
      exact ⟨fun framer => (framer.events (decodeProgram answer bytes).text,
        .envelope (framer.frameProgram answer bytes)), rfl, fun _ => rfl⟩
  | _ => cases isCall

end Ask

/-- What a session is after some steps: its variables are those that the steps have set, and what
it remembers is the load that is in use. -/
structure Reached (initial : Environment) (detector : Detector) (steps : List SessionStep)
    (session : Session) : Prop where
  environment : session.environment = environmentAfter initial steps
  detector : session.detector = detector
  configuration : ∃ held, InUse initial steps held ∧ session.configuration = .holding held

/-- A call is answered by the framer of the settings that are then in use, or it fails for want of
valid ones and leaves the session as it was. -/
theorem Reached.step_of_call (reached : Reached initial detector steps session)
    (isCall : step.isCall = true) :
    (∃ settings, InUse initial (steps ++ [step]) (some settings) ∧
        (session.step step).1 = { session with configuration := .holding (some settings) } ∧
        (session.step step).2.answer = .ok (step.answerBy detector (.ofSettings settings))) ∨
      ∃ error, InUse initial steps none ∧ InUse initial (steps ++ [step]) none ∧
        (environmentAfter initial steps).settings = .error error ∧
        session.configuration = .holding none ∧ (session.step step).1 = session ∧
        (session.step step).2.answer = .error error := by
  obtain ⟨environment, rfl, held, inUse, holds⟩ := reached
  obtain ⟨question, asks, answers⟩ := session.exists_ask isCall
  have goesOn : step ≠ .reset := by
    rintro rfl
    cases isCall
  rw [asks]
  cases held with
  | some settings =>
      refine .inl ⟨settings, inUse.concat_some goesOn, ?_⟩
      rw [ask_of_holding holds, ← holds, answers]
      exact ⟨rfl, rfl⟩
  | none =>
      cases loaded : (environmentAfter initial steps).settings with
      | ok settings =>
          refine .inl ⟨settings, inUse.load isCall loaded, ?_⟩
          rw [ask_of_load holds (environment ▸ loaded), answers]
          exact ⟨rfl, rfl⟩
      | error error =>
          refine .inr ⟨error, inUse, inUse.concat_none fun _ settings => ?_, rfl, holds, ?_⟩
          · rw [loaded]
            exact fun same => by cases same
          · rw [ask_of_failure holds (environment ▸ loaded)]
            exact ⟨rfl, rfl⟩

theorem Reached.concat (reached : Reached initial detector steps session) (step : SessionStep) :
    Reached initial detector (steps ++ [step]) (session.step step).1 := by
  -- The three calls differ only in what they ask.
  have ofCall : step.isCall = true → step.change session.environment = session.environment →
      Reached initial detector (steps ++ [step]) (session.step step).1 := by
    intro isCall unchanged
    have environment : session.environment = environmentAfter initial (steps ++ [step]) := by
      rw [environmentAfter_concat, ← reached.environment, unchanged]
    rcases reached.step_of_call isCall with ⟨settings, inUse, after, _⟩ |
      ⟨_, _, inUse, _, empty, after, _⟩
    · rw [after]
      exact ⟨environment, reached.detector, some settings, inUse, rfl⟩
    · rw [after]
      exact ⟨environment, reached.detector, none, inUse, empty⟩
  obtain ⟨environment, sameDetector, held, inUse, holds⟩ := reached
  cases step with
  | set bindings =>
      refine ⟨?_, sameDetector, held, inUse.concat nofun rfl, holds⟩
      rw [environmentAfter_concat, ← environment]
      rfl
  | unset names =>
      refine ⟨?_, sameDetector, held, inUse.concat nofun rfl, holds⟩
      rw [environmentAfter_concat, ← environment]
      rfl
  | reset =>
      refine ⟨?_, sameDetector, none, inUse_reset, rfl⟩
      rw [environmentAfter_concat, ← environment]
      rfl
  | transform text => exact ofCall rfl rfl
  | isKeyword word => exact ofCall rfl rfl
  | frameProgram bytes => exact ofCall rfl rfl

/-- The session after some steps. -/
def after (session : Session) (steps : List SessionStep) : Session :=
  steps.foldl (fun held step => (held.step step).1) session

theorem after_concat (session : Session) (steps : List SessionStep) (step : SessionStep) :
    session.after (steps ++ [step]) = ((session.after steps).step step).1 := by
  rw [after, List.foldl_append]
  rfl

theorem getElem?_run (session : Session) (steps : List SessionStep) (place : Nat) :
    (session.run steps)[place]? =
      steps[place]?.map fun step => ((session.after (steps.take place)).step step).2 := by
  induction steps generalizing session place with
  | nil => rfl
  | cons step steps ih =>
      cases place with
      | zero => rfl
      | succ place => exact ih (session.step step).1 place

theorem reached_after (initial : Environment) (detector : Detector) (steps : List SessionStep) :
    Reached initial detector steps (after { environment := initial, detector } steps) := by
  induction steps using List.reverseRecOn with
  | nil => exact ⟨rfl, rfl, none, inUse_nil initial, rfl⟩
  | append_singleton steps step ih =>
      rw [after_concat]
      exact ih.concat step

/-- Every call of a session, after whatever steps, is answered by the framer of the settings that
could first be loaded since the last reset. It fails only if none could be loaded until then and the
variables do not give any now, and then nothing is remembered. -/
theorem call_answered_by_first_load (initial : Environment) (detector : Detector)
    (steps : List SessionStep) (place : Nat) (call : SessionStep)
    (asked : steps[place]? = some call) (isCall : call.isCall = true) :
    let start : Session := { environment := initial, detector }
    ∃ reply, (start.run steps)[place]? = some reply ∧
      ((∃ environment settings, FirstLoad initial (steps.take (place + 1)) environment ∧
          environment.settings = .ok settings ∧
          reply.answer = .ok (call.answerBy detector (.ofSettings settings))) ∨
        ∃ error, reply.answer = .error error ∧
          (∀ earlier, ¬ LoadsAt initial (steps.take place) earlier) ∧
          (environmentAfter initial (steps.take place)).settings = .error error ∧
          (start.after (steps.take (place + 1))).configuration.settings = none ∧
          (start.after (steps.take (place + 1))).configuration.framer = none) := by
  intro start
  have taken : steps.take (place + 1) = steps.take place ++ [call] := by
    rw [List.take_add_one, asked]
    rfl
  refine ⟨_, by rw [getElem?_run, asked]; rfl, ?_⟩
  rw [taken]
  have reached := reached_after initial detector (steps.take place)
  rcases reached.step_of_call isCall with ⟨settings, ⟨environment, first, loaded⟩, _, answer⟩ |
    ⟨error, unloaded, _, failed, empty, kept, answer⟩
  · exact .inl ⟨environment, settings, first, loaded, answer⟩
  · refine .inr ⟨error, answer, unloaded, failed, ?_⟩
    rw [after_concat, kept, empty]
    exact ⟨rfl, rfl⟩

/-- The variables are wrong at first, and the call fails. Once they are put right the standard
settings are loaded, and a word that is reserved after that is not reserved for the next call. -/
theorem call_answered_by_first_load_kept :
    let wrong : Environment := [("LWFRAME_LOG_JSON".toList, "maybe".toList)]
    let asks : SessionStep := .isKeyword ['Y']
    let steps : List SessionStep :=
      [asks, .unset ["LWFRAME_LOG_JSON".toList], asks,
        .set [("LWFRAME_EXTRA_KEYWORDS".toList, "[\"Y\"]".toList)], asks]
    let start : Session := { environment := wrong }
    (start.after (steps.take 1)).configuration.framer = none ∧
      ∃ reply, (start.run steps)[4]? = some reply ∧
        reply.answer = .ok (.truth ((Framer.ofSettings {}).isKeyword ['Y'])) := by
  intro wrong asks steps start
  have invalid : ∀ settings, wrong.settings ≠ .ok settings := by
    have refused : wrong.settings.toOption.isNone = true := by decide +kernel
    intro settings loaded
    rw [loaded] at refused
    cases refused
  have answered := fun place asked =>
    call_answered_by_first_load wrong .silent steps place asks asked rfl
  refine ⟨?_, ?_⟩
  · obtain ⟨_, _, ⟨_, settings, ⟨place, loads, _, rfl⟩, loaded, _⟩ | ⟨_, _, _, _, _, empty⟩⟩ :=
      answered 0 rfl
    · have first : place < 1 := loads.lt
      obtain rfl : place = 0 := by omega
      exact absurd loaded (invalid settings)
    · exact empty
  · have loads : LoadsAt wrong steps 2 := ⟨⟨_, rfl, rfl⟩, by simp [steps, asks], {}, rfl⟩
    have loadsBefore : LoadsAt wrong (steps.take 4) 2 :=
      ⟨⟨_, rfl, rfl⟩, by simp [steps, asks], {}, rfl⟩
    obtain ⟨reply, found, ⟨_, settings, ⟨place, ⟨⟨call, called, isCall⟩, _, valid⟩, none, rfl⟩,
      loaded, answer⟩ | ⟨_, _, none, _⟩⟩ := answered 4 rfl
    · refine ⟨reply, found, ?_⟩
      -- The load was at place 2: nothing could be loaded at 0, and 1 is no call.
      have notLater : ¬ 2 < place := fun later => none 2 later loads
      obtain rfl | rfl | rfl : place = 0 ∨ place = 1 ∨ place = 2 := by omega
      · obtain ⟨other, otherLoaded⟩ := valid
        exact absurd otherLoaded (invalid other)
      · cases called
        cases isCall
      · cases loaded
        exact answer
    · exact absurd loadsBefore (none 2)

end Session

end NameFraming
