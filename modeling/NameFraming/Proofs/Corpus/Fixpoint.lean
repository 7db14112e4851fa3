import NameFraming.CommandLine
import NameFraming.Proofs.Corpus.Isolation
import NameFraming.Proofs.Framer.Idempotence

/-! A second batch over what a first one has written. Its files are found, read and decoded in the
same way, and there is nothing left to frame. -/

namespace NameFraming

/-- A framer that is done with a text after one run, and edits it by delimiters only. -/
structure Framer.Settles (framer : Framer) : Prop where
  idempotent : framer.Idempotent
  edits : ∀ text, Edited text (framer.transform text)

/-- The standard materials are in ASCII. -/
theorem Framer.settles_standard (vocabulary : Vocabulary) :
    (withMaterials vocabulary MaterialQuality.standardMaterials
      MaterialQuality.standardPreposition).Settles := by
  have canonical := MaterialQuality.standardMaterials_canonical
  refine ⟨idempotent_standard vocabulary, edited_transform vocabulary canonical
    MaterialQuality.standardPreposition_canonical fun material member => ?_⟩
  have ascii : MaterialQuality.standardMaterials.all
      (fun material => material.all fun c => Nat.blt c.toNat 0x80) = true := by decide
  refine ⟨(canonical material member).nonempty, fun c inMaterial => Nat.blt_eq.mp ?_⟩
  exact List.all_eq_true.mp (List.all_eq_true.mp ascii material member) c inMaterial

variable {framer : Framer} {options : BatchOptions} {disk after : Disk} {path directory : Path}
  {location : Location} {bytes : Bytes}

section Outcomes

/-- What may become of a file in a batch after the one that gave the first outcome. -/
inductive Settled (first second : FileOutcome) : Prop
  | unchanged (name : second.name = first.name)
      (done : first.status = .fixed ∨ first.status = .unchanged)
      (status : second.status = .unchanged) (encoding : second.encoding = first.encoding)
  | failed (name : second.name = first.name) (failed : first.status = .failed)
      (status : second.status = .failed) (error : second.error = first.error)

theorem Settled.not_fixed {first second : FileOutcome} (settled : Settled first second) :
    second.status ≠ .fixed := by
  cases settled with
  | unchanged _ _ status _ => simp [status]
  | failed _ _ status _ => simp [status]

theorem Settled.none_fixed {first second : List FileOutcome}
    (settled : List.Forall₂ Settled first second) : ∀ file ∈ second, file.status ≠ .fixed := by
  induction settled with
  | nil => simp
  | cons head _ ih => exact List.forall_mem_cons.mpr ⟨head.not_fixed, ih⟩

theorem Framer.frameFile_unread {error : DiskError} (unread : disk.read path = .error error) :
    framer.frameFile options disk path = .failed disk path
      (FileRun.blankOutcome path options.suffix) [] (.unreadable error.reason) := by
  simp only [frameFile, unread]

theorem Framer.changed_eq (framer : Framer) (text : Text) :
    (framer.frame text).changed = (framer.transform text != text) := rfl

/-- A text that framing does not change is left alone, also one that had to be repaired. -/
theorem Framer.frameFile_unchanged (read : disk.read path = .ok bytes)
    (same : framer.transform (decodeProgram options.answer bytes).text =
      (decodeProgram options.answer bytes).text) :
    (framer.frameFile options disk path).outcome.name = path.name ∧
      (framer.frameFile options disk path).outcome.status = .unchanged ∧
      (framer.frameFile options disk path).outcome.encoding =
        some (decodeProgram options.answer bytes).report.used.toList := by
  simp [frameFile, read, finishFile, changed_eq, same, FileRun.blankOutcome]

theorem Framer.frameFile_repaired (read : disk.read path = .ok bytes)
    (changes : framer.transform (decodeProgram options.answer bytes).text ≠
      (decodeProgram options.answer bytes).text)
    (repaired : (decodeProgram options.answer bytes).report.fallback = true) :
    (framer.frameFile options disk path).outcome.name = path.name ∧
      (framer.frameFile options disk path).outcome.status = .failed ∧
      (framer.frameFile options disk path).outcome.error =
        some (CorpusError.undecodable.problem path).display := by
  simp [frameFile, read, finishFile, changed_eq, changes, repaired, FileRun.failed,
    FileRun.blankOutcome]

theorem Framer.frameFile_written {written : Bytes} (writes : options.write = true)
    (read : disk.read path = .ok bytes)
    (changes : framer.transform (decodeProgram options.answer bytes).text ≠
      (decodeProgram options.answer bytes).text)
    (trust : (decodeProgram options.answer bytes).report.fallback = false)
    (encoded : (decodeProgram options.answer bytes).encoding.encode
      (framer.transform (decodeProgram options.answer bytes).text) = .ok written)
    (stored : disk.write path written = .ok after) :
    (framer.frameFile options disk path).outcome.name = path.name ∧
      (framer.frameFile options disk path).outcome.status = .fixed ∧
      (framer.frameFile options disk path).outcome.encoding =
        some (decodeProgram options.answer bytes).report.used.toList ∧
      (framer.frameFile options disk path).disk = after := by
  have framed : (framer.frame (decodeProgram options.answer bytes).text).text =
      framer.transform (decodeProgram options.answer bytes).text := rfl
  simp [frameFile, read, finishFile, changed_eq, changes, trust, writes, writeProgram,
    encodeProgram, framed, encoded, stored, bind, Except.bind, FileRun.blankOutcome]

theorem Framer.frameFile_of_not_fixed
    (notFixed : (framer.frameFile options disk path).outcome.status ≠ .fixed) :
    (framer.frameFile options disk path).disk = disk ∧
      (framer.frameFile options disk path).writes = [] := by
  rcases framer.frameFile_cases options disk path with
    ⟨kept, none, _⟩ | ⟨_, _, _, _, _, fixed, _⟩
  · exact ⟨kept, none⟩
  · exact absurd fixed notFixed

end Outcomes

section Again

variable {old : Bytes} {suffix : Text} {answer : Option String}

/-- Where nothing had to be written, the same is read, and found out, again. -/
theorem Framer.settled_of_kept (write : Bool)
    (sameRead : (framer.frameFile { suffix, answer } disk path).outcome.status ≠ .fixed →
      after.read path = disk.read path)
    (settled : ∀ bytes, disk.read path = .ok bytes →
      framer.transform (decodeProgram answer bytes).text ≠ (decodeProgram answer bytes).text →
        (decodeProgram answer bytes).report.fallback = true) :
    Settled (framer.frameFile { suffix, answer } disk path).outcome
        (framer.frameFile { suffix, write, answer } after path).outcome ∧
      after.read path = disk.read path := by
  cases read : disk.read path with
  | error error =>
      have first := @Framer.frameFile_unread framer { suffix, answer } disk path error read
      have readAgain := (sameRead (by simp [first, FileRun.failed])).trans read
      have second :=
        @Framer.frameFile_unread framer { suffix, write, answer } after path error readAgain
      rw [first, second]
      exact ⟨.failed rfl rfl rfl rfl, readAgain⟩
  | ok bytes =>
      by_cases same : framer.transform (decodeProgram answer bytes).text =
          (decodeProgram answer bytes).text
      · obtain ⟨name, status, encoding⟩ :=
          @Framer.frameFile_unchanged framer { suffix, answer } disk path bytes read same
        have readAgain := (sameRead (by simp [status])).trans read
        obtain ⟨nameAgain, statusAgain, encodingAgain⟩ := @Framer.frameFile_unchanged framer
          { suffix, write, answer } after path bytes readAgain same
        exact ⟨.unchanged (nameAgain.trans name.symm) (.inr status) statusAgain
          (encodingAgain.trans encoding.symm), readAgain⟩
      · have repaired := settled bytes read same
        obtain ⟨name, status, error⟩ :=
          @Framer.frameFile_repaired framer { suffix, answer } disk path bytes read same repaired
        have readAgain := (sameRead (by simp [status])).trans read
        obtain ⟨nameAgain, statusAgain, errorAgain⟩ := @Framer.frameFile_repaired framer
          { suffix, write, answer } after path bytes readAgain same repaired
        exact ⟨.failed (nameAgain.trans name.symm) status statusAgain
          (errorAgain.trans error.symm), readAgain⟩

/-- A file after a batch that wrote, framed once more. -/
theorem Framer.Settles.frameFile_again (settles : framer.Settles) (wellFormed : disk.WellFormed)
    (unfaulted : disk.writeErrors = []) (located : disk.locate path = .ok location)
    (found : disk.node? location = some (.file old)) (write : Bool)
    (sameSkeleton : after.skeleton = disk.skeleton)
    (sameNode : after.node? location =
      (framer.frameFile { suffix, answer } disk path).disk.node? location)
    (unbroken : fileBreakdown? { suffix, answer } disk path = none) :
    Settled (framer.frameFile { suffix, answer } disk path).outcome
        (framer.frameFile { suffix, write, answer } after path).outcome ∧
      fileBreakdown? { suffix, write, answer } after path = none := by
  -- Only a text that changes and needed no repair is written.
  by_cases changes : ∃ bytes, disk.read path = .ok bytes ∧
      framer.transform (decodeProgram answer bytes).text ≠ (decodeProgram answer bytes).text ∧
      (decodeProgram answer bytes).report.fallback = false
  · obtain ⟨bytes, read, changes, trust⟩ := changes
    obtain ⟨written, encoded, decodedAgain, sameUtf8⟩ :=
      (trusted_of_decodeProgram trust).decodeProgram_edited (settles.edits _)
    have stored := @Disk.write_eq_ok disk location path old written (by simp [unfaulted]) located
      found
    obtain ⟨name, status, encoding, left⟩ := @Framer.frameFile_written framer { suffix, answer }
      disk _ path bytes written rfl read changes trust encoded stored
    have node : after.node? location = some (.file written) := by
      rw [sameNode, left, Disk.node?_put wellFormed found, if_pos rfl]
    have readAgain := Disk.read_of_written read sameSkeleton located node
    have settledText : framer.transform (decodeProgram answer written).text =
        (decodeProgram answer written).text := by
      rw [decodedAgain]
      exact (settles.idempotent _).1
    obtain ⟨nameAgain, statusAgain, encodingAgain⟩ := @Framer.frameFile_unchanged framer
      { suffix, write, answer } after path written readAgain settledText
    refine ⟨.unchanged (nameAgain.trans name.symm) (.inl status) statusAgain ?_, ?_⟩
    · rw [encodingAgain, encoding, decodedAgain]
    · simp only [fileBreakdown?, read, readAgain] at unbroken ⊢
      rw [answerError?_congr sameUtf8, unbroken]
  · have sameRead : (framer.frameFile { suffix, answer } disk path).outcome.status ≠ .fixed →
        after.read path = disk.read path := by
      intro notFixed
      have kept := (Framer.frameFile_of_not_fixed notFixed).1
      exact Disk.read_congr sameSkeleton located (kept ▸ sameNode)
    obtain ⟨settled, same⟩ := Framer.settled_of_kept write sameRead fun bytes read changed =>
      Bool.of_not_eq_false fun trust => changes ⟨bytes, read, changed, trust⟩
    refine ⟨settled, ?_⟩
    rw [← unbroken, fileBreakdown?, fileBreakdown?, same]

theorem Framer.frameFiles_of_kept {files : List Path}
    (kept : ∀ path ∈ files, (framer.frameFile options disk path).disk = disk) :
    (framer.frameFiles options disk files).1 = disk := by
  induction files with
  | nil => rfl
  | cons path rest ih =>
      obtain ⟨first, later⟩ := List.forall_mem_cons.mp kept
      simp only [frameFiles, first]
      exact ih later

theorem programNames_of_skeleton (sameSkeleton : after.skeleton = disk.skeleton)
    (base : Location) (suffix : Text) :
    programNames after base suffix = programNames disk base suffix := by
  rw [programNames, ← Disk.fileNames_skeleton, sameSkeleton, Disk.fileNames_skeleton]
  rfl

theorem Discovered.of_skeleton {base : Location}
    (discovered : Discovered disk directory suffix base)
    (sameSkeleton : after.skeleton = disk.skeleton) : Discovered after directory suffix base := by
  obtain ⟨located, isDirectory, short⟩ := discovered
  refine ⟨(Disk.locate_of_skeleton sameSkeleton directory).trans located, ?_, ?_⟩
  · rw [← Disk.isDirectory_skeleton_iff, sameSkeleton, Disk.isDirectory_skeleton_iff]
    exact isDirectory
  · rw [← Disk.entryNames_skeleton, sameSkeleton, Disk.entryNames_skeleton]
    exact short

/-- A batch after one that wrote writes nothing, and reports that there was nothing to do. -/
theorem Framer.Settles.completes_again (settles : framer.Settles) (wellFormed : disk.WellFormed)
    (unfaulted : disk.writeErrors = []) {run : BatchRun}
    (completes : framer.Completes { suffix, answer } disk directory run) (write : Bool) :
    ∃ again, framer.Completes { suffix, write, answer } run.disk directory again ∧
      again.writes = [] ∧ again.disk = run.disk ∧
      List.Forall₂ Settled run.report.files again.report.files := by
  obtain ⟨base, discovered, unbroken, outcomes, left, _⟩ := completes.discovered wellFormed
  have programs := discovered.programs wellFormed
  have isolated := left ▸ framer.isolated_frameFiles { suffix, answer } wellFormed programs
  have sameSkeleton := isolated.skeleton
  have sameNames := programNames_of_skeleton sameSkeleton base suffix
  have each : ∀ name ∈ programNames disk base suffix,
      Settled (framer.frameFile { suffix, answer } disk (directory.child name)).outcome
          (framer.frameFile { suffix, write, answer } run.disk (directory.child name)).outcome ∧
        fileBreakdown? { suffix, write, answer } run.disk (directory.child name) = none := by
    intro name member
    obtain ⟨content, found⟩ := programs.files name member
    exact settles.frameFile_again wellFormed unfaulted (programs.located name member) found write
      sameSkeleton (isolated.own name member) (unbroken name member)
  have wellFormedAgain := wellFormed.of_skeleton sameSkeleton
  have discoveredAgain := discovered.of_skeleton sameSkeleton
  obtain ⟨again, completesAgain⟩ := @Framer.exists_completes { suffix, write, answer } run.disk
    directory base framer wellFormedAgain discoveredAgain
    (fun name member => (each name (sameNames ▸ member)).2)
  obtain ⟨other, discoveredOther, _, outcomesAgain, leftAgain, writesAgain⟩ :=
    completesAgain.discovered wellFormedAgain
  cases discoveredAgain.located.symm.trans discoveredOther.located
  have isolatedAgain := framer.isolated_frameFiles { suffix, write, answer } wellFormedAgain
    (discoveredAgain.programs wellFormedAgain)
  have kept := fun name member =>
    Framer.frameFile_of_not_fixed (each name (sameNames ▸ member)).1.not_fixed
  refine ⟨again, completesAgain, ?_, ?_, ?_⟩
  · rw [writesAgain, isolatedAgain.writes, List.flatMap_eq_nil_iff]
    exact fun name member => (kept name member).2
  · rw [leftAgain]
    refine Framer.frameFiles_of_kept fun path member => ?_
    obtain ⟨name, inNames, rfl⟩ := List.mem_map.mp member
    exact (kept name inNames).1
  · rw [outcomes, isolated.outcomes, outcomesAgain, isolatedAgain.outcomes, sameNames,
      List.forall₂_map_left_iff, List.forall₂_map_right_iff, List.forall₂_same]
    exact fun name member => (each name member).1

end Again

namespace CommandLine

variable {environment : Environment} {arguments : List Text} {answer : Option String}
  {settings : Settings} {parsed : Arguments} {format : LogFormat} {suffix : Text} {first : Run}

theorem runBatch_of_completes {batch : BatchRun}
    (completes : (Framer.ofSettings settings).Completes
      { suffix, write := !parsed.check, answer } disk (.ofText parsed.directory) batch) :
    (runBatch settings parsed suffix format answer disk).exitCode =
        exitCode parsed batch.report ∧
      (runBatch settings parsed suffix format answer disk).failure = none ∧
      (runBatch settings parsed suffix format answer disk).writes = batch.writes ∧
      (runBatch settings parsed suffix format answer disk).disk = batch.disk := by
  obtain ⟨unbroken, framed⟩ := completes
  simp [runBatch, unbroken, framed]

/-- A run that neither fails nor misses its corpus has its report. -/
theorem completes_of_runBatch
    (sound : (runBatch settings parsed suffix format answer disk).failure = none)
    (found : (runBatch settings parsed suffix format answer disk).exitCode ≠ 2) :
    ∃ batch, (Framer.ofSettings settings).Completes
        { suffix, write := !parsed.check, answer } disk (.ofText parsed.directory) batch ∧
      (runBatch settings parsed suffix format answer disk).disk = batch.disk := by
  cases unbroken : (Framer.ofSettings settings).brokenBatch?
      { suffix, write := !parsed.check, answer } disk (.ofText parsed.directory) with
  | some broken => simp [runBatch, unbroken, failedRun] at sound
  | none =>
      cases framed : (Framer.ofSettings settings).frameCorpus
          { suffix, write := !parsed.check, answer } disk (.ofText parsed.directory) with
      | error error => simp [runBatch, unbroken, framed, unavailableRun] at found
      | ok batch => exact ⟨batch, ⟨unbroken, framed⟩, by simp [runBatch, unbroken, framed]⟩

theorem run_eq (loaded : loadSettings environment (envFile? disk) = .ok settings)
    (asked : Arguments.parse settings arguments = .ok (.arguments parsed)) :
    run environment arguments answer disk =
      (startLog parsed.logLevel settings.logJson).map fun format =>
        parsed.suffix.elim (runWithoutSuffix parsed format disk) fun suffix =>
          runBatch settings parsed suffix format answer disk := by
  simp only [run, loaded, runWith, asked, bind, Except.bind]
  cases startLog parsed.logLevel settings.logJson with
  | error error => rfl
  | ok format => cases parsed.suffix <;> rfl

theorem exitCode_eq_two_of_runWithoutSuffix
    (sound : (runWithoutSuffix parsed format disk).failure = none) :
    (runWithoutSuffix parsed format disk).exitCode = 2 := by
  unfold runWithoutSuffix at sound ⊢
  simp only at sound ⊢
  repeat' split
  all_goals simp_all [failedRun, unavailableRun]

theorem completes_of_run (loaded : loadSettings environment (envFile? disk) = .ok settings)
    (asked : Arguments.parse settings arguments = .ok (.arguments parsed))
    (ran : run environment arguments answer disk = .ok first) (sound : first.failure = none)
    (found : first.exitCode ≠ 2) :
    ∃ suffix batch, parsed.suffix = some suffix ∧
      (Framer.ofSettings settings).Completes
        { suffix, write := !parsed.check, answer } disk (.ofText parsed.directory) batch ∧
      first.disk = batch.disk := by
  rw [run_eq loaded asked] at ran
  cases started : startLog parsed.logLevel settings.logJson with
  | error error =>
      rw [started] at ran
      cases ran
  | ok format =>
      rw [started] at ran
      cases given : parsed.suffix with
      | none =>
          rw [given] at ran
          cases ran
          exact absurd (exitCode_eq_two_of_runWithoutSuffix sound) found
      | some suffix =>
          rw [given] at ran
          cases ran
          obtain ⟨batch, completes, left⟩ := completes_of_runBatch sound found
          exact ⟨suffix, batch, rfl, completes, left⟩

/-- Writing into files does not make a file of bindings. -/
theorem envFile?_of_skeleton (sameSkeleton : after.skeleton = disk.skeleton)
    (absent : envFile? disk = none) : envFile? after = none := by
  have same := congrArg (fun disk => disk.content (.ofText ".env".toList)) sameSkeleton
  simp only [Disk.content_skeleton] at same
  unfold envFile? at absent ⊢
  cases ofAfter : after.content (.ofText ".env".toList) with
  | error error => rfl
  | ok bytes =>
      cases ofDisk : disk.content (.ofText ".env".toList) with
      | error error =>
          rw [ofAfter, ofDisk] at same
          cases same
      | ok old =>
          rw [ofDisk] at absent
          cases absent

theorem exitCode_eq_zero {report : Report} {arguments : Arguments}
    (notFixed : ∀ file ∈ report.files, file.status ≠ .fixed) (lenient : arguments.strict = false) :
    exitCode arguments report = 0 := by
  have none : report.fixed = 0 := by
    rw [Report.fixed, Report.countStatus, List.countP_eq_zero]
    simpa using notFixed
  simp [exitCode, none, lenient]

end CommandLine

/-- After a batch that wrote, another one with the standard framer has nothing to do; so a run of the
command that only checks, right after one that wrote, ends well. -/
theorem Framer.frameCorpus_fixpoint :
    (∀ (disk : Disk) (directory : Path) (suffix : Text) (answer : Option String) (run : BatchRun)
        (write : Bool), disk.WellFormed → disk.writeErrors = [] →
      Framer.Completes {} { suffix, write := true, answer } disk directory run →
      ∃ again, Framer.Completes {} { suffix, write, answer } run.disk directory again ∧
        again.writes = [] ∧ again.disk = run.disk ∧
        List.Forall₂ Settled run.report.files again.report.files) ∧
    ∀ (environment : Environment) (arguments later : List Text) (answer : Option String)
        (disk : Disk) (parsed : Arguments) (json : Bool) (logLevel : Option Text)
        (format : LogFormat) (first : CommandLine.Run),
      disk.WellFormed → disk.writeErrors = [] →
      loadSettings environment (CommandLine.envFile? disk) = .ok {} →
      Arguments.parse {} arguments = .ok (.arguments parsed) → parsed.check = false →
      CommandLine.run environment arguments answer disk = .ok first →
      first.failure = none → first.exitCode ≠ 2 →
      loadSettings environment (CommandLine.envFile? first.disk) = .ok {} →
      Arguments.parse {} later =
        .ok (.arguments { parsed with check := true, strict := false, json, logLevel }) →
      startLog logLevel false = .ok format →
      ∃ second, CommandLine.run environment later answer first.disk = .ok second ∧
        second.exitCode = 0 ∧ second.failure = none ∧ second.writes = [] ∧
        second.disk = first.disk := by
  constructor
  · intro disk directory suffix answer run write wellFormed unfaulted completes
    exact (settles_standard .reserved).completes_again wellFormed unfaulted completes write
  · intro environment arguments later answer disk parsed json logLevel format first wellFormed
      unfaulted loaded asked writes ran sound found loadedAgain askedAgain started
    obtain ⟨suffix, batch, given, completes, left⟩ :=
      CommandLine.completes_of_run loaded asked ran sound found
    rw [writes] at completes
    obtain ⟨again, completesAgain, noWrites, sameDisk, settled⟩ :=
      (settles_standard _).completes_again wellFormed unfaulted completes false
    rw [← left] at completesAgain sameDisk
    obtain ⟨exitsWith, failure, writesAgain, leftAgain⟩ :=
      @CommandLine.runBatch_of_completes first.disk answer {}
        { parsed with check := true, strict := false, json, logLevel } format suffix again
        completesAgain
    refine ⟨_, ?_, ?_, failure, writesAgain.trans noWrites, leftAgain.trans sameDisk⟩
    · rw [CommandLine.run_eq loadedAgain askedAgain, given, started]
      rfl
    · rw [exitsWith]
      exact CommandLine.exitCode_eq_zero (Settled.none_fixed settled) rfl

/-- Two programs, one of them in Windows-1252, and a file that is none. -/
theorem Framer.frameCorpus_fixpoint_windows :
    let disk : Disk :=
      { nodes :=
          [([['c']], .directory), ([['c'], "ab.lw".toList], .file (Utf8.encode "SHOW X".toList)),
            ([['c'], "cd.lw".toList], .file [0x53, 0x20, 0x80, 0xC9, 0x20, 0x58]),
            ([['c'], "ef".toList], .file [0xFF])] }
    disk.WellFormed ∧ disk.writeErrors = [] ∧
      (∃ run again,
        Framer.Completes {} { answer := some "cp1252" } disk ⟨[], [['c']]⟩ run ∧
        Framer.Completes {} { write := false, answer := some "cp1252" } run.disk ⟨[], [['c']]⟩
          again ∧
        again.writes = [] ∧ List.Forall₂ Settled run.report.files again.report.files) ∧
      ∃ first second, CommandLine.run [] [['c']] (some "cp1252") disk = .ok first ∧
        CommandLine.run [] [['c'], "--check".toList] (some "cp1252") first.disk = .ok second ∧
        second.exitCode = 0 ∧ second.writes = [] := by
  intro disk
  have wellFormed : disk.WellFormed := by decide
  have discovered : Discovered disk ⟨[], [['c']]⟩ ".lw".toList [['c']] :=
    ⟨by decide +kernel, by decide, by decide +kernel⟩
  have lookedUp : Encoding.find (answeredEncoding (some "cp1252")) ≠ .error .nullCharacter := by
    decide +kernel
  let options : BatchOptions := { answer := some "cp1252" }
  have unbroken := @Discovered.unbroken options _ _ _ _ discovered wellFormed lookedUp
  refine ⟨wellFormed, rfl, ?_, ?_⟩
  · obtain ⟨run, completes⟩ :=
      @Framer.exists_completes options _ _ _ {} wellFormed discovered unbroken
    obtain ⟨again, completesAgain, noWrites, _, settled⟩ :=
      Framer.frameCorpus_fixpoint.1 disk _ _ _ run false wellFormed rfl completes
    exact ⟨run, again, completes, completesAgain, noWrites, settled⟩
  · obtain ⟨batch, completes⟩ :=
      @Framer.exists_completes options _ _ _ (.ofSettings {}) wellFormed discovered unbroken
    let parsed : Arguments :=
      { directory := ['c'], suffix := some ".lw".toList, logLevel := some "info".toList }
    obtain ⟨format, started⟩ : ∃ format, startLog parsed.logLevel false = .ok format := ⟨_, rfl⟩
    obtain ⟨exitsWith, failure, _, left⟩ :=
      @CommandLine.runBatch_of_completes disk (some "cp1252") {} parsed format ".lw".toList batch
        completes
    have exits : CommandLine.exitCode parsed batch.report = 0 := rfl
    have loaded : loadSettings [] none = .ok {} := rfl
    have absent : CommandLine.envFile? disk = none := by decide +kernel
    have asked : Arguments.parse {} [['c']] = .ok (.arguments parsed) := rfl
    have ran : CommandLine.run [] [['c']] (some "cp1252") disk =
        .ok (CommandLine.runBatch {} parsed ".lw".toList format (some "cp1252") disk) := by
      rw [CommandLine.run_eq (absent.symm ▸ loaded) asked, started]
      rfl
    have absentAgain : CommandLine.envFile?
        (CommandLine.runBatch {} parsed ".lw".toList format (some "cp1252") disk).disk = none :=
      left ▸ CommandLine.envFile?_of_skeleton (completes.skeleton wellFormed) absent
    obtain ⟨second, ranAgain, exitsWithAgain, _, noWrites, _⟩ := Framer.frameCorpus_fixpoint.2 []
      [['c']] [['c'], "--check".toList] (some "cp1252") disk parsed false parsed.logLevel format _
      wellFormed rfl (absent.symm ▸ loaded) asked rfl ran failure (by rw [exitsWith, exits]; decide)
      (absentAgain.symm ▸ loaded) rfl started
    exact ⟨_, second, ran, ranAgain, exitsWithAgain, noWrites⟩

end NameFraming
