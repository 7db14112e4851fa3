import NameFraming.Proofs.Corpus.Fixpoint

/-! Files whose bytes fit no encoding. Their text is repaired before it is framed, and whether this
is reported depends on the framing: a file that would change fails, and one that would not passes
for sound. -/

namespace NameFraming

variable {framer : Framer} {options : BatchOptions} {answer : Option String} {disk : Disk}
  {path directory : Path} {base : Location} {bytes : Bytes}

/-- A file that can be read, but whose text can only be found by repairing it. -/
structure Undecodable (answer : Option String) (disk : Disk) (path : Path) (bytes : Bytes) :
    Prop where
  read : disk.read path = .ok bytes
  answered : answerError? answer bytes = none
  repaired : (decodeProgram answer bytes).report.fallback = true

section Decoding

theorem decodeProgram_of_fallback
    (repaired : (decodeProgram answer bytes).report.fallback = true) :
    ¬ Utf8.IsUtf8 bytes ∧ (decodeProgram answer bytes).text = Utf8.repair bytes := by
  have notUtf8 : ¬ Utf8.IsUtf8 bytes := by
    intro valid
    obtain ⟨text, found, _⟩ := Encoding.codecs.decodeProgram_of_isUtf8 answer valid
    rw [decodeProgram_of_ok found] at repaired
    cases repaired
  have unanswered := @decodeProgram_unanswered answer bytes notUtf8 fun encoding text read => by
    rw [decodeProgram_of_ok (Codecs.decodeProgram_of_read notUtf8 read)] at repaired
    cases repaired
  exact ⟨notUtf8, by rw [unanswered]; rfl⟩

theorem Undecodable.text (undecodable : Undecodable answer disk path bytes) :
    (decodeProgram answer bytes).text = Utf8.repair bytes :=
  (decodeProgram_of_fallback undecodable.repaired).2

/-- The detector was asked about the file, and its answer could be looked up. -/
theorem Undecodable.lookedUp (undecodable : Undecodable answer disk path bytes) :
    Encoding.find (answeredEncoding answer) ≠ .error .nullCharacter := by
  intro unknown
  have notUtf8 := (decodeProgram_of_fallback undecodable.repaired).1
  have failed := answerError?_eq_some_iff.mpr ⟨notUtf8, unknown, rfl⟩
  rw [undecodable.answered] at failed
  cases failed

end Decoding

section OneFile

theorem Framer.error_frameFile_eq_none_iff (framer : Framer) (options : BatchOptions)
    (disk : Disk) (path : Path) :
    (framer.frameFile options disk path).outcome.error = none ↔
      (framer.frameFile options disk path).outcome.status ≠ .failed := by
  cases readResult : disk.read path with
  | error error => simp [frameFile, readResult, FileRun.failed]
  | ok before =>
      simp only [frameFile, readResult, finishFile]
      repeat' split
      all_goals simp [FileRun.blankOutcome, FileRun.failed]

theorem CorpusError.display_undecodable (path : Path) :
    (CorpusError.undecodable.problem path).display =
      "[undecodable]".toList ++ ' ' :: CorpusError.undecodable.message path := rfl

variable (undecodable : Undecodable options.answer disk path bytes)
include undecodable

theorem Undecodable.failed
    (changes : framer.transform (Utf8.repair bytes) ≠ Utf8.repair bytes) :
    (framer.frameFile options disk path).outcome.status = .failed ∧
      ∃ rest, (framer.frameFile options disk path).outcome.error =
        some ("[undecodable]".toList ++ rest) := by
  rw [← undecodable.text] at changes
  obtain ⟨_, failed, error⟩ :=
    Framer.frameFile_repaired undecodable.read changes undecodable.repaired
  exact ⟨failed, _, error.trans (congrArg some (CorpusError.display_undecodable path))⟩

theorem Undecodable.unchanged
    (same : framer.transform (Utf8.repair bytes) = Utf8.repair bytes) :
    (framer.frameFile options disk path).outcome.status = .unchanged ∧
      (framer.frameFile options disk path).outcome.error = none := by
  rw [← undecodable.text] at same
  obtain ⟨_, unchanged, _⟩ := Framer.frameFile_unchanged undecodable.read same
  refine ⟨unchanged, (framer.error_frameFile_eq_none_iff options disk path).mpr ?_⟩
  simp [unchanged]

theorem Undecodable.status_cases :
    (framer.frameFile options disk path).outcome.status = .failed ∧
        framer.transform (Utf8.repair bytes) ≠ Utf8.repair bytes ∨
      (framer.frameFile options disk path).outcome.status = .unchanged ∧
        framer.transform (Utf8.repair bytes) = Utf8.repair bytes := by
  by_cases same : framer.transform (Utf8.repair bytes) = Utf8.repair bytes
  · exact .inr ⟨(undecodable.unchanged same).1, same⟩
  · exact .inl ⟨(undecodable.failed same).1, same⟩

theorem Undecodable.untouched :
    (framer.frameFile options disk path).disk = disk ∧
      (framer.frameFile options disk path).writes = [] := by
  apply Framer.frameFile_of_not_fixed
  rcases @Undecodable.status_cases framer options disk path bytes undecodable with
    ⟨failed, _⟩ | ⟨unchanged, _⟩
  · simp [failed]
  · simp [unchanged]

end OneFile

/-- A corpus that can be looked at has its report, file by file. -/
theorem Discovered.completes (discovered : Discovered disk directory options.suffix base)
    (wellFormed : disk.WellFormed)
    (lookedUp : Encoding.find (answeredEncoding options.answer) ≠ .error .nullCharacter) :
    ∃ run, framer.Completes options disk directory run ∧
      run.report.files = (programNames disk base options.suffix).map (fun name =>
        (framer.frameFile options disk (directory.child name)).outcome) ∧
      ∀ name ∈ programNames disk base options.suffix, run.disk.node? (base ++ [name]) =
        (framer.frameFile options disk (directory.child name)).disk.node? (base ++ [name]) := by
  obtain ⟨run, completes⟩ := framer.exists_completes wellFormed discovered
    (discovered.unbroken wellFormed lookedUp)
  obtain ⟨other, discoveredOther, _, outcomes, left, _⟩ := completes.discovered wellFormed
  cases discovered.located.symm.trans discoveredOther.located
  have isolated :=
    framer.isolated_frameFiles options wellFormed (discovered.programs wellFormed)
  exact ⟨run, completes, outcomes.trans isolated.outcomes, left ▸ isolated.own⟩

namespace CommandLine

/-- What a strict run objects to: a file that failed, and in a check one that would change. -/
def Objects (arguments : Arguments) (file : FileOutcome) : Prop :=
  file.status = .failed ∨ arguments.check = true ∧ file.status = .fixed

theorem countStatus_ne_zero_iff {report : Report} {status : FileStatus} :
    report.countStatus status ≠ 0 ↔ ∃ file ∈ report.files, file.status = status := by
  simp [Report.countStatus, List.countP_eq_zero]

theorem exitCode_le_one (arguments : Arguments) (report : Report) :
    exitCode arguments report ≤ 1 := by
  unfold exitCode
  repeat' split
  all_goals decide

theorem exitCode_eq_one_iff {arguments : Arguments} (strict : arguments.strict = true)
    (report : Report) :
    exitCode arguments report = 1 ↔ ∃ file ∈ report.files, Objects arguments file := by
  have counted : exitCode arguments report = 1 ↔
      arguments.check = true ∧ report.fixed ≠ 0 ∨ report.failed ≠ 0 := by
    by_cases fixed : arguments.check = true ∧ report.fixed ≠ 0
    · simp [exitCode, fixed]
    · by_cases failed : report.failed = 0 <;> simp [exitCode, fixed, strict, failed]
  rw [counted, Report.fixed, Report.failed, countStatus_ne_zero_iff, countStatus_ne_zero_iff]
  constructor
  · rintro (⟨checks, file, member, fixed⟩ | ⟨file, member, failed⟩)
    · exact ⟨file, member, .inr ⟨checks, fixed⟩⟩
    · exact ⟨file, member, .inl failed⟩
  · rintro ⟨file, member, failed | ⟨checks, fixed⟩⟩
    · exact .inr ⟨file, member, failed⟩
    · exact .inl ⟨checks, file, member, fixed⟩

/-- A run with `--strict` that gets to look at its corpus. -/
structure StrictRun (environment : Environment) (arguments : List Text) (disk : Disk)
    (settings : Settings) (parsed : Arguments) (suffix : Text) (base : Location) : Prop where
  loaded : loadSettings environment (envFile? disk) = .ok settings
  asked : Arguments.parse settings arguments = .ok (.arguments parsed)
  strict : parsed.strict = true
  given : parsed.suffix = some suffix
  logged : ∃ format, startLog parsed.logLevel settings.logJson = .ok format
  discovered : Discovered disk (.ofText parsed.directory) suffix base

variable {environment : Environment} {arguments : List Text} {settings : Settings}
  {parsed : Arguments} {suffix : Text}

/-- A strict run goes by what becomes of each file of its corpus alone. -/
theorem StrictRun.file_by_file
    (strictly : StrictRun environment arguments disk settings parsed suffix base)
    (wellFormed : disk.WellFormed)
    (lookedUp : Encoding.find (answeredEncoding answer) ≠ .error .nullCharacter) :
    let options : BatchOptions := { suffix, write := !parsed.check, answer }
    let alone := fun name => (Framer.ofSettings settings).frameFile options disk
      ((Path.ofText parsed.directory).child name)
    ∃ ended, run environment arguments answer disk = .ok ended ∧ ended.failure = none ∧
      ended.exitCode ≤ 1 ∧
      (ended.exitCode = 1 ↔
        ∃ name ∈ programNames disk base suffix, Objects parsed (alone name).outcome) ∧
      ∀ name ∈ programNames disk base suffix,
        ended.disk.node? (base ++ [name]) = (alone name).disk.node? (base ++ [name]) := by
  intro options alone
  obtain ⟨batch, completes, files, own⟩ := @Discovered.completes (.ofSettings settings) options
    disk _ base strictly.discovered wellFormed lookedUp
  obtain ⟨format, logged⟩ := strictly.logged
  obtain ⟨exits, failure, _, left⟩ :=
    @runBatch_of_completes disk answer settings parsed format suffix batch completes
  refine ⟨_, ?_, failure, ?_, ?_, left ▸ own⟩
  · rw [run_eq strictly.loaded strictly.asked, strictly.given, logged]
    rfl
  · rw [exits]
    exact exitCode_le_one parsed batch.report
  · rw [exits, exitCode_eq_one_iff strictly.strict, files]
    simp only [List.mem_map, exists_exists_and_eq_and]
    rfl

end CommandLine

theorem Undecodable.objects_iff (undecodable : Undecodable options.answer disk path bytes)
    (parsed : Arguments) :
    CommandLine.Objects parsed (framer.frameFile options disk path).outcome ↔
      framer.transform (Utf8.repair bytes) ≠ Utf8.repair bytes := by
  rcases @Undecodable.status_cases framer options disk path bytes undecodable with
    ⟨failed, changes⟩ | ⟨unchanged, same⟩
  · exact iff_of_true (.inl failed) changes
  · refine iff_of_false ?_ (not_not_intro same)
    simp [CommandLine.Objects, unchanged]

/-- An undecodable file is reported exactly when framing would change it. Otherwise it counts as
unchanged, and a strict run goes by the other files of the corpus. In neither case is it written. -/
theorem Framer.undecodable_reported_iff_changed (answer : Option String) (disk : Disk) (path : Path)
    (bytes : Bytes) (undecodable : Undecodable answer disk path bytes) :
    (∀ (framer : Framer) (suffix : Text) (write : Bool),
      let run := framer.frameFile { suffix, write, answer } disk path
      run.disk = disk ∧ run.writes = [] ∧
        (framer.transform (Utf8.repair bytes) ≠ Utf8.repair bytes →
          run.outcome.status = .failed ∧
            ∃ rest, run.outcome.error = some ("[undecodable]".toList ++ rest)) ∧
        (framer.transform (Utf8.repair bytes) = Utf8.repair bytes →
          run.outcome.status = .unchanged ∧ run.outcome.error = none)) ∧
    ∀ (environment : Environment) (arguments : List Text) (settings : Settings)
        (parsed : Arguments) (suffix : Text) (base : Location) (name : Text),
      let framer := Framer.ofSettings settings
      let options : BatchOptions := { suffix, write := !parsed.check, answer }
      let directory := Path.ofText parsed.directory
      disk.WellFormed →
      CommandLine.StrictRun environment arguments disk settings parsed suffix base →
      name ∈ programNames disk base suffix → path = directory.child name →
      ∃ run, CommandLine.run environment arguments answer disk = .ok run ∧ run.failure = none ∧
        run.disk.node? (base ++ [name]) = disk.node? (base ++ [name]) ∧ run.exitCode ≤ 1 ∧
        (run.exitCode = 1 ↔ framer.transform (Utf8.repair bytes) ≠ Utf8.repair bytes ∨
          ∃ other ∈ programNames disk base suffix, other ≠ name ∧
            CommandLine.Objects parsed
              (framer.frameFile options disk (directory.child other)).outcome) := by
  constructor
  · intro framer suffix write run
    let options : BatchOptions := { suffix, write, answer }
    obtain ⟨kept, noWrites⟩ := @Undecodable.untouched framer options disk path bytes undecodable
    exact ⟨kept, noWrites, @Undecodable.failed framer options disk path bytes undecodable,
      @Undecodable.unchanged framer options disk path bytes undecodable⟩
  · intro environment arguments settings parsed suffix base name framer options directory
      wellFormed strictly member isPath
    subst isPath
    obtain ⟨run, ran, failure, bound, exits, own⟩ :=
      strictly.file_by_file wellFormed undecodable.lookedUp
    have objects := @Undecodable.objects_iff framer options disk _ bytes undecodable parsed
    refine ⟨run, ran, failure, ?_, bound, exits.trans ?_⟩
    · rw [own name member, (@Undecodable.untouched framer options _ _ _ undecodable).1]
    · constructor
      · rintro ⟨other, listed, objectsTo⟩
        by_cases same : other = name
        · exact .inl (objects.mp (same ▸ objectsTo))
        · exact .inr ⟨other, listed, same, objectsTo⟩
      · rintro (changes | ⟨other, listed, _, objectsTo⟩)
        · exact ⟨name, member, objects.mpr changes⟩
        · exact ⟨other, listed, objectsTo⟩

/-- Two files that are not UTF-8. There is a name in one of them. The other one has nothing to frame,
and a strict run over it ends well. -/
theorem Framer.undecodable_reported_iff_changed_silent :
    let named : Bytes := Utf8.encode "SHOW Y ".toList ++ [0xFF]
    let disk : Disk :=
      { nodes :=
          [([['c']], .directory), ([['c'], "ab.lw".toList], .file [0xFF]),
            (["cd.lw".toList], .file named)] }
    let framer : Framer := { vocabulary := .ofWords ["SHOW".toList] }
    (framer.frameFile {} disk ⟨[], ["cd.lw".toList]⟩).outcome.status = .failed ∧
      (framer.frameFile {} disk ⟨[], [['c'], "ab.lw".toList]⟩).outcome.status = .unchanged ∧
      ∃ run, CommandLine.run [] [['c'], "--strict".toList] none disk = .ok run ∧
        run.exitCode = 0 := by
  intro named disk framer
  have undecodable : Undecodable none disk ⟨[], ["cd.lw".toList]⟩ named :=
    ⟨by decide +kernel, by decide +kernel, by decide +kernel⟩
  have silent : Undecodable none disk ⟨[], [['c'], "ab.lw".toList]⟩ [0xFF] :=
    ⟨by decide +kernel, by decide +kernel, by decide +kernel⟩
  obtain ⟨ofNamed, _⟩ := Framer.undecodable_reported_iff_changed none disk _ named undecodable
  obtain ⟨ofSilent, ofRun⟩ := Framer.undecodable_reported_iff_changed none disk _ [0xFF] silent
  have failed := (ofNamed framer ['.', 'l', 'w'] true).2.2.1 (by decide +kernel)
  have unchanged := (ofSilent framer ['.', 'l', 'w'] true).2.2.2 (by decide +kernel)
  let parsed : Arguments :=
    { directory := ['c'], suffix := some ".lw".toList, strict := true,
      logLevel := some "info".toList }
  have loaded : loadSettings [] (CommandLine.envFile? disk) = .ok {} := by
    have absent : CommandLine.envFile? disk = none := by decide +kernel
    rw [absent]
    rfl
  have strictly : CommandLine.StrictRun [] [['c'], "--strict".toList] disk {} parsed
      ".lw".toList [['c']] :=
    ⟨loaded, rfl, rfl, rfl, ⟨_, rfl⟩, by decide +kernel, by decide, by decide +kernel⟩
  obtain ⟨run, ran, _, _, bound, exits⟩ := ofRun _ _ {} parsed _ _ "ab.lw".toList
    (by decide) strictly (by decide +kernel) rfl
  have same : (Framer.ofSettings {}).transform (Utf8.repair [0xFF]) = Utf8.repair [0xFF] := by
    decide +kernel
  have alone : ∀ other ∈ programNames disk [['c']] ".lw".toList, other = "ab.lw".toList := by
    decide +kernel
  have notOne : run.exitCode ≠ 1 := by
    intro one
    rcases exits.mp one with changes | ⟨other, member, differs, _⟩
    · exact changes same
    · exact differs (alone other member)
  exact ⟨failed.1, unchanged.1, run, ran, by omega⟩

end NameFraming
