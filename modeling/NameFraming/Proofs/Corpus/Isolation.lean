import NameFraming.Proofs.Corpus.Disk
import NameFraming.Proofs.Program

/-! A batch frames each of its files as if that file were alone. -/

namespace NameFraming

variable {framer : Framer} {options : BatchOptions} {disk after : Disk} {path directory : Path}
  {location base : Location} {names : List Text}

/-- The bytes of a program that was framed and written back: those of the framed text, in the
encoding that the outcome names. -/
structure WrittenBack (framer : Framer) (answer : Option String) (outcome : FileOutcome)
    (before written : Bytes) : Prop where
  named : outcome.encoding = some (decodeProgram answer before).report.used.toList
  known : Encoding.find (decodeProgram answer before).report.used =
    .ok (decodeProgram answer before).encoding
  encoded : (decodeProgram answer before).encoding.encode
    (framer.transform (decodeProgram answer before).text) = .ok written

section OneFile

theorem writeProgram_eq_ok {encoding : Encoding} {name : String} {text : Text} {written : Bytes}
    (done : writeProgram disk path encoding name text = .ok (after, written)) :
    encoding.encode text = .ok written ∧ disk.write path written = .ok after := by
  simp only [writeProgram, encodeProgram, bind, Except.bind] at done
  cases encoded : encoding.encode text with
  | error reason => simp [encoded] at done
  | ok bytes =>
      simp only [encoded] at done
      cases stored : disk.write path bytes with
      | error error => simp [stored] at done
      | ok result =>
          simp only [stored, Except.ok.injEq, Prod.mk.injEq] at done
          obtain ⟨rfl, rfl⟩ := done
          exact ⟨rfl, stored⟩

/-- What can become of a file and of the disk. -/
theorem Framer.frameFile_cases (framer : Framer) (options : BatchOptions) (disk : Disk)
    (path : Path) :
    ((framer.frameFile options disk path).disk = disk ∧
        (framer.frameFile options disk path).writes = [] ∧
        ¬ (options.write = true ∧
          (framer.frameFile options disk path).outcome.status = .fixed)) ∨
      ∃ before written, disk.read path = .ok before ∧
        WrittenBack framer options.answer (framer.frameFile options disk path).outcome before
          written ∧
        options.write = true ∧ (framer.frameFile options disk path).outcome.status = .fixed ∧
        disk.write path written = .ok (framer.frameFile options disk path).disk ∧
        (framer.frameFile options disk path).writes = [(path, written)] := by
  cases readResult : disk.read path with
  | error error => exact .inl (by simp [frameFile, readResult, FileRun.failed])
  | ok before =>
      simp only [frameFile, readResult, finishFile]
      split
      · exact .inl (by simp [FileRun.blankOutcome])
      · split
        · exact .inl (by simp [FileRun.failed])
        · rename_i trust
          split
          · rename_i writes
            split
            · rename_i written done
              obtain ⟨encoded, stored⟩ := writeProgram_eq_ok done
              have trusted := trusted_of_decodeProgram (Bool.eq_false_iff.mpr trust)
              exact .inr ⟨before, written, rfl, ⟨rfl, trusted.find_used, encoded⟩, writes, rfl,
                stored, rfl⟩
            · exact .inl (by simp [FileRun.failed])
          · rename_i checks
            exact .inl ⟨rfl, rfl, fun both => checks both.1⟩

theorem Framer.frameFile_status (framer : Framer) (options : BatchOptions) (disk : Disk)
    (path : Path) :
    (framer.frameFile options disk path).outcome.status = .fixed ∨
      (framer.frameFile options disk path).outcome.status = .unchanged ∨
      (framer.frameFile options disk path).outcome.status = .failed := by
  cases readResult : disk.read path with
  | error error => simp [frameFile, readResult, FileRun.failed]
  | ok before =>
      simp only [frameFile, readResult, finishFile]
      repeat' split
      all_goals simp [FileRun.blankOutcome, FileRun.failed]

/-- A file whose text had to be repaired is never fixed. -/
theorem Framer.fallback_of_fixed {bytes : Bytes} (read : disk.read path = .ok bytes)
    (fixed : (framer.frameFile options disk path).outcome.status = .fixed) :
    (decodeProgram options.answer bytes).report.fallback = false := by
  simp only [frameFile, read, finishFile] at fixed
  split at fixed
  · cases fixed
  · split at fixed
    · cases fixed
    · rename_i trust
      exact Bool.eq_false_iff.mpr trust

/-- What becomes of a file depends on what is read from it, and on whether it can be written. -/
theorem Framer.frameFile_congr (framer : Framer) (options : BatchOptions)
    (sameSkeleton : after.skeleton = disk.skeleton) (sameRead : after.read path = disk.read path) :
    (framer.frameFile options after path).outcome = (framer.frameFile options disk path).outcome ∧
      (framer.frameFile options after path).writes =
        (framer.frameFile options disk path).writes := by
  have sameWrite : ∀ bytes error,
      after.write path bytes = .error error ↔ disk.write path bytes = .error error := by
    intro bytes error
    rw [← Disk.write_skeleton_eq_error_iff, sameSkeleton, Disk.write_skeleton_eq_error_iff]
  cases readResult : disk.read path with
  | error error => simp [frameFile, sameRead, readResult, FileRun.failed]
  | ok before =>
      simp only [frameFile, sameRead, readResult, finishFile]
      split
      · exact ⟨rfl, rfl⟩
      · split
        · exact ⟨rfl, rfl⟩
        · split
          · simp only [writeProgram, encodeProgram, bind, Except.bind]
            cases Encoding.encode _ _ with
            | error reason => exact ⟨rfl, rfl⟩
            | ok bytes =>
                simp only
                cases stored : disk.write path bytes with
                | error error =>
                    rw [(sameWrite bytes error).mpr stored]
                    exact ⟨rfl, rfl⟩
                | ok result =>
                    cases storedAfter : after.write path bytes with
                    | error error =>
                        rw [(sameWrite bytes error).mp storedAfter] at stored
                        cases stored
                    | ok resultAfter => exact ⟨rfl, rfl⟩
          · exact ⟨rfl, rfl⟩

/-- What a file holds after a run: what was written, or what it held before. -/
def FileRun.content (run : FileRun) (old : Bytes) : Bytes :=
  (run.writes.head?.map Prod.snd).getD old

/-- Framing a file touches that file alone. -/
theorem Framer.frameFile_frame (framer : Framer) (options : BatchOptions) {old : Bytes}
    (wellFormed : disk.WellFormed) (located : disk.locate path = .ok location)
    (found : disk.node? location = some (.file old)) :
    (framer.frameFile options disk path).disk.skeleton = disk.skeleton ∧
      ∀ other, (framer.frameFile options disk path).disk.node? other =
        if other = location then some (.file ((framer.frameFile options disk path).content old))
        else disk.node? other := by
  rcases framer.frameFile_cases options disk path with
    ⟨kept, none, _⟩ | ⟨_, written, _, _, _, _, stored, one⟩
  · rw [kept, FileRun.content, none]
    refine ⟨rfl, fun other => ?_⟩
    by_cases same : other = location
    · rw [if_pos same, same, found]
      rfl
    · rw [if_neg same]
  · rw [Disk.eq_put_of_write located stored, FileRun.content, one]
    exact ⟨Disk.skeleton_put wellFormed found, Disk.node?_put wellFormed found⟩

theorem Framer.node?_frameFile_congr (framer : Framer) (options : BatchOptions) {old : Bytes}
    (wellFormed : disk.WellFormed) (sameSkeleton : after.skeleton = disk.skeleton)
    (located : disk.locate path = .ok location)
    (sameNode : after.node? location = disk.node? location)
    (found : disk.node? location = some (.file old)) :
    (framer.frameFile options after path).disk.node? location =
      (framer.frameFile options disk path).disk.node? location := by
  have sameRead := Disk.read_congr sameSkeleton located sameNode
  have sameWrites := (framer.frameFile_congr options sameSkeleton sameRead).2
  have ofDisk := (framer.frameFile_frame options wellFormed located found).2 location
  have ofAfter := (framer.frameFile_frame options (wellFormed.of_skeleton sameSkeleton)
    ((Disk.locate_of_skeleton sameSkeleton path).trans located)
    (sameNode.trans found)).2 location
  rw [ofDisk, ofAfter, if_pos rfl, if_pos rfl, FileRun.content, FileRun.content, sameWrites]

end OneFile

section Files

/-- The files of the given names in a directory. -/
structure Programs (disk : Disk) (directory : Path) (base : Location) (names : List Text) : Prop where
  distinct : names.Nodup
  located : ∀ name ∈ names, disk.locate (directory.child name) = .ok (base ++ [name])
  files : ∀ name ∈ names, ∃ content, disk.node? (base ++ [name]) = some (.file content)

/-- Every file was framed as on the disk before all of them, and nothing else was touched. -/
structure Isolated (framer : Framer) (options : BatchOptions) (disk : Disk) (directory : Path)
    (base : Location) (names : List Text) (after : Disk) (runs : List FileRun) : Prop where
  outcomes : runs.map FileRun.outcome =
    names.map fun name => (framer.frameFile options disk (directory.child name)).outcome
  writes : runs.flatMap FileRun.writes =
    names.flatMap fun name => (framer.frameFile options disk (directory.child name)).writes
  skeleton : after.skeleton = disk.skeleton
  own : ∀ name ∈ names, after.node? (base ++ [name]) =
    (framer.frameFile options disk (directory.child name)).disk.node? (base ++ [name])
  others : ∀ location, (∀ name ∈ names, location ≠ base ++ [name]) →
    after.node? location = disk.node? location

theorem Framer.isolated_frameFiles (framer : Framer) (options : BatchOptions)
    (wellFormed : disk.WellFormed) (programs : Programs disk directory base names) :
    Isolated framer options disk directory base names
      (framer.frameFiles options disk (names.map directory.child)).1
      (framer.frameFiles options disk (names.map directory.child)).2 := by
  induction names generalizing disk with
  | nil => exact ⟨rfl, rfl, rfl, fun _ member => absurd member (by simp), fun _ _ => rfl⟩
  | cons name rest ih =>
      obtain ⟨notLater, laterDistinct⟩ := List.nodup_cons.mp programs.distinct
      have located := programs.located name List.mem_cons_self
      obtain ⟨old, found⟩ := programs.files name List.mem_cons_self
      obtain ⟨sameSkeleton, nodes⟩ := framer.frameFile_frame options wellFormed located found
      have inRest : ∀ {later}, later ∈ rest → later ∈ name :: rest := List.mem_cons_of_mem name
      have untouched : ∀ later ∈ rest,
          (framer.frameFile options disk (directory.child name)).disk.node? (base ++ [later]) =
            disk.node? (base ++ [later]) := by
        intro later member
        rw [nodes, if_neg]
        intro same
        rw [List.append_cancel_left_eq, List.singleton_inj] at same
        exact notLater (same ▸ member)
      have laterPrograms : Programs (framer.frameFile options disk (directory.child name)).disk
          directory base rest :=
        ⟨laterDistinct,
          fun later member => (Disk.locate_of_skeleton sameSkeleton _).trans
            (programs.located later (inRest member)),
          fun later member => (untouched later member).symm ▸ programs.files later (inRest member)⟩
      have isolated := ih (wellFormed.of_skeleton sameSkeleton) laterPrograms
      -- A later file is read and written as if the first one had not been framed.
      have alone : ∀ later ∈ rest, _ := fun later member =>
        framer.frameFile_congr options sameSkeleton (Disk.read_congr sameSkeleton
          (programs.located later (inRest member)) (untouched later member))
      refine ⟨?_, ?_, isolated.skeleton.trans sameSkeleton, ?_, ?_⟩
      · simp only [frameFiles, List.map_cons, isolated.outcomes, List.cons.injEq, true_and]
        exact List.map_congr_left fun later member => (alone later member).1
      · simp only [frameFiles, List.map_cons, List.flatMap_cons, isolated.writes]
        congr 1
        exact List.flatMap_congr fun later member => (alone later member).2
      · intro own member
        rcases List.mem_cons.mp member with rfl | later
        · refine isolated.others _ fun later laterMember same => ?_
          rw [List.append_cancel_left_eq, List.singleton_inj] at same
          exact notLater (same ▸ laterMember)
        · obtain ⟨content, ownFound⟩ := programs.files own member
          exact (isolated.own own later).trans (framer.node?_frameFile_congr options wellFormed
            sameSkeleton (programs.located own member) (untouched own later) ownFound)
      · intro other differs
        have fromRest := isolated.others other fun later member => differs later (inRest member)
        exact fromRest.trans ((nodes other).trans (if_neg (differs name List.mem_cons_self)))

end Files

section Discovery

variable {suffix : Text}

/-- The names of the programs in a directory, in their order. -/
def programNames (disk : Disk) (base : Location) (suffix : Text) : List Text :=
  ((disk.fileNames base).filter fun name => suffix.isSuffixOf name).mergeSort
    fun left right => !decide (right < left)

theorem mem_programNames_iff (wellFormed : disk.WellFormed) {name : Text} :
    name ∈ programNames disk base suffix ↔
      suffix <:+ name ∧ ∃ content, disk.node? (base ++ [name]) = some (.file content) := by
  rw [programNames, List.mem_mergeSort, List.mem_filter, Disk.mem_fileNames_iff wellFormed,
    List.isSuffixOf_iff_suffix, and_comm]

theorem programNames_ascending (wellFormed : disk.WellFormed) :
    (programNames disk base suffix).Pairwise (· < ·) := by
  have sorted : (programNames disk base suffix).Pairwise fun left right =>
      (!decide (right < left)) = true := by
    apply List.pairwise_mergeSort
    · intro first second third
      simp only [Bool.not_eq_true', decide_eq_false_iff_not, List.not_lt]
      exact List.le_trans
    · intro first second
      simp only [Bool.or_eq_true, Bool.not_eq_true', decide_eq_false_iff_not, List.not_lt]
      exact List.le_total first second
  have distinct : (programNames disk base suffix).Nodup :=
    (List.mergeSort_perm _ _).nodup_iff.mpr ((Disk.nodup_fileNames wellFormed base).filter _)
  refine (sorted.and distinct).imp fun ⟨ordered, differ⟩ => ?_
  simp only [Bool.not_eq_true', decide_eq_false_iff_not, List.not_lt] at ordered
  by_contra notLess
  exact differ (List.le_antisymm ordered (List.not_lt.mp notLess))

/-- A directory whose programs can all be looked at. -/
structure Discovered (disk : Disk) (directory : Path) (suffix : Text) (base : Location) : Prop where
  located : disk.locate directory = .ok base
  isDirectory : disk.node? base = some .directory
  short : ∀ name ∈ disk.entryNames base, suffix <:+ name → ¬ Disk.IsTooLong (directory.child name)

theorem discoveryBreakdown?_eq_none_iff (wellFormed : disk.WellFormed)
    (located : disk.locate directory = .ok base) (isDirectory : disk.node? base = some .directory) :
    discoveryBreakdown? disk directory suffix = none ↔ Discovered disk directory suffix base := by
  have ofEntry : ∀ name ∈ disk.entryNames base,
      pathBreakdown? disk (directory.child name) = none ↔
        ¬ Disk.IsTooLong (directory.child name) := by
    intro name member
    have entry := Disk.entryName_of_mem_entryNames wellFormed member
    rw [pathBreakdown?, Disk.locate_child located isDirectory entry]
    by_cases long : Disk.IsTooLong (directory.child name) <;> simp [long]
  have short : discoveryBreakdown? disk directory suffix = none ↔
      ∀ name ∈ disk.entryNames base, suffix <:+ name →
        ¬ Disk.IsTooLong (directory.child name) := by
    simp only [discoveryBreakdown?, pathBreakdown?, located, isDirectory, if_true,
      List.findSome?_eq_none_iff, List.mem_filter, List.isSuffixOf_iff_suffix, and_imp]
    exact forall₂_congr fun name member => imp_congr_right fun _ => ofEntry name member
  exact short.trans ⟨fun each => ⟨located, isDirectory, each⟩, Discovered.short⟩

theorem discover_eq_ok_iff {files : List Path} :
    discover disk directory suffix = .ok files ↔
      ∃ base, disk.locate directory = .ok base ∧ disk.node? base = some .directory ∧
        files = (programNames disk base suffix).map directory.child := by
  unfold discover
  cases disk.locate directory with
  | error error => simp
  | ok base =>
      by_cases isDirectory : disk.node? base = some .directory
      · simp [isDirectory, programNames, eq_comm]
      · simp [isDirectory]

theorem fileBreakdown?_eq_none (wellFormed : disk.WellFormed)
    (lookedUp : Encoding.find (answeredEncoding options.answer) ≠ .error .nullCharacter)
    {old : Bytes} (located : disk.locate path = .ok location)
    (found : disk.node? location = some (.file old)) : fileBreakdown? options disk path = none := by
  rcases Disk.read_cases located found with readable | ⟨name, error, fault, unreadable⟩
  · simp [fileBreakdown?, readable, answerError?_eq_none lookedUp]
  · have notNull := wellFormed.faults _ fault
    rw [fileBreakdown?, unreadable]
    split
    · simp_all
    · rfl
    · simp_all

theorem Discovered.programs (discovered : Discovered disk directory suffix base)
    (wellFormed : disk.WellFormed) :
    Programs disk directory base (programNames disk base suffix) := by
  refine ⟨(programNames_ascending wellFormed).imp fun less => ?_, fun name member => ?_,
    fun name member => ((mem_programNames_iff wellFormed).mp member).2⟩
  · rintro rfl
    exact List.lt_irrefl _ less
  · obtain ⟨ends, content, found⟩ := (mem_programNames_iff wellFormed).mp member
    have entry := Disk.entryName_of_node? wellFormed found
    have listed := Disk.mem_entryNames_of_node? wellFormed found
    rw [Disk.locate_child discovered.located discovered.isDirectory entry,
      if_neg (discovered.short name listed ends)]

theorem Discovered.unbroken (discovered : Discovered disk directory suffix base)
    (wellFormed : disk.WellFormed)
    (lookedUp : Encoding.find (answeredEncoding options.answer) ≠ .error .nullCharacter) :
    ∀ name ∈ programNames disk base suffix,
      fileBreakdown? options disk (directory.child name) = none := by
  intro name member
  have programs := discovered.programs wellFormed
  obtain ⟨content, found⟩ := programs.files name member
  exact fileBreakdown?_eq_none wellFormed lookedUp (programs.located name member) found

end Discovery

section Batch

/-- The batch runs to its report. -/
def Framer.Completes (framer : Framer) (options : BatchOptions) (disk : Disk) (directory : Path)
    (run : BatchRun) : Prop :=
  framer.brokenBatch? options disk directory = none ∧
    framer.frameCorpus options disk directory = .ok run

theorem Framer.brokenBatch?_eq_none_iff (framer : Framer) :
    framer.brokenBatch? options disk directory = none ↔
      discoveryBreakdown? disk directory options.suffix = none ∧
        ∀ files, discover disk directory options.suffix = .ok files →
          ∀ path ∈ files, fileBreakdown? options disk path = none := by
  unfold brokenBatch?
  cases discoveryBreakdown? disk directory options.suffix with
  | some cause => simp
  | none => cases discover disk directory options.suffix <;> simp

theorem Framer.frameCorpus_of_discover (framer : Framer) {files : List Path}
    (found : discover disk directory options.suffix = .ok files) :
    ∃ run, framer.frameCorpus options disk directory = .ok run ∧
      run.report.files = (framer.frameFiles options disk files).2.map FileRun.outcome ∧
      run.disk = (framer.frameFiles options disk files).1 ∧
      run.writes = (framer.frameFiles options disk files).2.flatMap FileRun.writes := by
  rw [frameCorpus, found]
  exact ⟨_, rfl, rfl, rfl, rfl⟩

/-- A batch runs to its report when all its files can be looked at and none breaks it off. -/
theorem Framer.exists_completes (framer : Framer) (wellFormed : disk.WellFormed)
    (discovered : Discovered disk directory options.suffix base)
    (unbroken : ∀ name ∈ programNames disk base options.suffix,
      fileBreakdown? options disk (directory.child name) = none) :
    ∃ run, framer.Completes options disk directory run := by
  have files : discover disk directory options.suffix =
      .ok ((programNames disk base options.suffix).map directory.child) :=
    discover_eq_ok_iff.mpr ⟨base, discovered.located, discovered.isDirectory, rfl⟩
  obtain ⟨run, framed, _⟩ := framer.frameCorpus_of_discover files
  refine ⟨run, framer.brokenBatch?_eq_none_iff.mpr ⟨?_, ?_⟩, framed⟩
  · exact (discoveryBreakdown?_eq_none_iff wellFormed discovered.located
      discovered.isDirectory).mpr discovered
  · intro found same path member
    cases files.symm.trans same
    obtain ⟨name, inNames, rfl⟩ := List.mem_map.mp member
    exact unbroken name inNames

theorem Framer.Completes.discovered {run : BatchRun} (wellFormed : disk.WellFormed)
    (completes : framer.Completes options disk directory run) :
    ∃ base, Discovered disk directory options.suffix base ∧
      (∀ name ∈ programNames disk base options.suffix,
        fileBreakdown? options disk (directory.child name) = none) ∧
      run.report.files = (framer.frameFiles options disk
        ((programNames disk base options.suffix).map directory.child)).2.map FileRun.outcome ∧
      run.disk = (framer.frameFiles options disk
        ((programNames disk base options.suffix).map directory.child)).1 ∧
      run.writes = (framer.frameFiles options disk
        ((programNames disk base options.suffix).map directory.child)).2.flatMap
          FileRun.writes := by
  obtain ⟨unbroken, framed⟩ := completes
  obtain ⟨undisturbed, each⟩ := framer.brokenBatch?_eq_none_iff.mp unbroken
  cases files : discover disk directory options.suffix with
  | error error => simp [frameCorpus, files, bind, Except.bind] at framed
  | ok found =>
      obtain ⟨base, located, isDirectory, rfl⟩ := discover_eq_ok_iff.mp files
      obtain ⟨_, same, leaves⟩ := framer.frameCorpus_of_discover files
      cases framed.symm.trans same
      refine ⟨base, ?_, fun name member => each _ files _ (List.mem_map_of_mem member), leaves⟩
      exact (discoveryBreakdown?_eq_none_iff wellFormed located isDirectory).mp undisturbed

theorem Framer.Completes.skeleton {run : BatchRun} (wellFormed : disk.WellFormed)
    (completes : framer.Completes options disk directory run) :
    run.disk.skeleton = disk.skeleton := by
  obtain ⟨base, discovered, _, _, left, _⟩ := completes.discovered wellFormed
  rw [left]
  exact (framer.isolated_frameFiles options wellFormed (discovered.programs wellFormed)).skeleton

/-- A batch that is broken off has not begun to frame its files. -/
theorem Framer.untouched_of_brokenBatch? (framer : Framer) {broken : BrokenBatch}
    (wellFormed : disk.WellFormed)
    (lookedUp : Encoding.find (answeredEncoding options.answer) ≠ .error .nullCharacter)
    (found : framer.brokenBatch? options disk directory = some broken) :
    broken.writes = [] ∧ broken.disk = disk := by
  cases undisturbed : discoveryBreakdown? disk directory options.suffix with
  | some cause =>
      simp only [brokenBatch?, undisturbed, Option.some.injEq] at found
      cases found
      exact ⟨rfl, rfl⟩
  | none =>
      have unbroken : framer.brokenBatch? options disk directory = none := by
        refine framer.brokenBatch?_eq_none_iff.mpr ⟨undisturbed, ?_⟩
        intro files discovery path member
        obtain ⟨base, located, isDirectory, rfl⟩ := discover_eq_ok_iff.mp discovery
        obtain ⟨name, inNames, rfl⟩ := List.mem_map.mp member
        have discovered :=
          (discoveryBreakdown?_eq_none_iff wellFormed located isDirectory).mp undisturbed
        exact discovered.unbroken wellFormed lookedUp name inNames
      cases unbroken.symm.trans found

/-- What a batch leaves behind. -/
structure FileByFile (framer : Framer) (options : BatchOptions) (disk : Disk) (directory : Path)
    (base : Location) (run : BatchRun) : Prop where
  outcomes : ∃ names : List Text, names.Pairwise (· < ·) ∧
    (∀ name, name ∈ names ↔ options.suffix <:+ name ∧
      ∃ content, disk.node? (base ++ [name]) = some (.file content)) ∧
    run.report.files =
      names.map fun name => (framer.frameFile options disk (directory.child name)).outcome
  statuses : ∀ file ∈ run.report.files,
    file.status = .fixed ∨ file.status = .unchanged ∨ file.status = .failed
  rewritten : ∀ name content, options.suffix <:+ name →
    disk.node? (base ++ [name]) = some (.file content) → options.write = true →
    (framer.frameFile options disk (directory.child name)).outcome.status = .fixed →
    ∃ written, run.disk.node? (base ++ [name]) = some (.file written) ∧
      WrittenBack framer options.answer
        (framer.frameFile options disk (directory.child name)).outcome content written
  kept : ∀ location, (¬ ∃ name content, location = base ++ [name] ∧ options.suffix <:+ name ∧
      disk.node? location = some (.file content) ∧ options.write = true ∧
      (framer.frameFile options disk (directory.child name)).outcome.status = .fixed) →
    run.disk.node? location = disk.node? location

theorem fileByFile_of_isolated {run : BatchRun} {runs : List FileRun}
    (wellFormed : disk.WellFormed)
    (programs : Programs disk directory base (programNames disk base options.suffix))
    (isolated : Isolated framer options disk directory base
      (programNames disk base options.suffix) run.disk runs)
    (files : run.report.files = runs.map FileRun.outcome) :
    FileByFile framer options disk directory base run := by
  have outcomes := files.trans isolated.outcomes
  refine ⟨⟨_, programNames_ascending wellFormed, fun name => mem_programNames_iff wellFormed,
    outcomes⟩, ?_, ?_, ?_⟩
  · intro file member
    rw [outcomes] at member
    obtain ⟨name, _, rfl⟩ := List.mem_map.mp member
    exact framer.frameFile_status options disk (directory.child name)
  · intro name content ends found writes fixed
    have listed := (mem_programNames_iff wellFormed).mpr ⟨ends, content, found⟩
    have located := programs.located name listed
    rcases framer.frameFile_cases options disk (directory.child name) with
      ⟨_, _, notFixed⟩ | ⟨before, written, read, back, _, _, stored, _⟩
    · exact absurd ⟨writes, fixed⟩ notFixed
    · have same : before = content := by
        rcases Disk.read_cases located found with readable | ⟨_, _, _, unreadable⟩
        · exact Except.ok.inj (read.symm.trans readable)
        · cases read.symm.trans unreadable
      refine ⟨written, ?_, same ▸ back⟩
      rw [isolated.own name listed, Disk.eq_put_of_write located stored,
        Disk.node?_put wellFormed found, if_pos rfl]
  · intro location unchanged
    by_cases listed : ∃ name ∈ programNames disk base options.suffix, location = base ++ [name]
    · obtain ⟨name, member, rfl⟩ := listed
      obtain ⟨ends, content, found⟩ := (mem_programNames_iff wellFormed).mp member
      rw [isolated.own name member]
      rcases framer.frameFile_cases options disk (directory.child name) with
        ⟨kept, _, _⟩ | ⟨_, _, _, _, writes, fixed, _, _⟩
      · rw [kept]
      · exact absurd ⟨name, content, rfl, ends, found, writes, fixed⟩ unchanged
    · exact isolated.others location fun name member same => listed ⟨name, member, same⟩

/-- A batch breaks off only when it is looked for, and then nothing was written. Otherwise every
program of the directory is framed as if it were alone. -/
theorem Framer.frameCorpus_isolated (framer : Framer) (options : BatchOptions) (disk : Disk)
    (directory : Path) (wellFormed : disk.WellFormed)
    (lookedUp : Encoding.find (answeredEncoding options.answer) ≠ .error .nullCharacter) :
    ((¬ ∃ run, framer.Completes options disk directory run) ↔
      disk.isDirectory directory = false ∨
        ∃ base name, disk.locate directory = .ok base ∧ name ∈ disk.entryNames base ∧
          options.suffix <:+ name ∧ Disk.IsTooLong (directory.child name)) ∧
      (∀ broken, framer.brokenBatch? options disk directory = some broken →
        broken.writes = [] ∧ broken.disk = disk) ∧
      ∀ run, framer.Completes options disk directory run →
        ∃ base, disk.locate directory = .ok base ∧
          FileByFile framer options disk directory base run := by
  refine ⟨?_, ?_, ?_⟩
  · rw [not_iff_comm, not_or, Bool.not_eq_false, Disk.isDirectory_iff]
    constructor
    · intro ⟨⟨base, located, isDirectory⟩, short⟩
      have discovered : Discovered disk directory options.suffix base :=
        ⟨located, isDirectory, fun name member ends long =>
          short ⟨base, name, located, member, ends, long⟩⟩
      exact framer.exists_completes wellFormed discovered
        (discovered.unbroken wellFormed lookedUp)
    · intro ⟨run, completes⟩
      obtain ⟨base, discovered, _⟩ := completes.discovered wellFormed
      refine ⟨⟨base, discovered.located, discovered.isDirectory⟩, ?_⟩
      intro ⟨other, name, located, member, ends, long⟩
      cases discovered.located.symm.trans located
      exact discovered.short name member ends long
  · intro broken found
    exact framer.untouched_of_brokenBatch? wellFormed lookedUp found
  · intro run completes
    obtain ⟨base, discovered, _, files, left, _⟩ := completes.discovered wellFormed
    have programs := discovered.programs wellFormed
    have isolated := left ▸ framer.isolated_frameFiles options wellFormed programs
    exact ⟨base, discovered.located, fileByFile_of_isolated wellFormed programs isolated files⟩

/-- One directory by two paths. The short one finds its programs, whatever faults they have; by the
long one they are out of reach, and the batch breaks off although the directory is there. -/
theorem Framer.frameCorpus_isolated_detour :
    let disk : Disk :=
      { nodes :=
          [([['c']], .directory), ([['c'], "ab.lw".toList], .file [0x58, 0xFF]),
            ([['c'], "cd.lw".toList], .file []), ([['c'], "ef.lw".toList], .directory)]
        readErrors := [("cd.lw".toList, .system 5 "Input/output error".toList)]
        writeErrors := [("ab.lw".toList, .system 28 "No space left on device".toList)] }
    let detour : Path := ⟨[], ['c'] :: (List.replicate 818 [['.', '.'], ['c']]).flatten⟩
    let options : BatchOptions := { answer := some "latin_1" }
    disk.WellFormed ∧
      Encoding.find (answeredEncoding options.answer) ≠ .error .nullCharacter ∧
      (∃ run base, Framer.Completes {} options disk ⟨[], [['c']]⟩ run ∧
        FileByFile {} options disk ⟨[], [['c']]⟩ base run) ∧
      disk.isDirectory detour = true ∧
      ¬ ∃ run, Framer.Completes {} options disk detour run := by
  intro disk detour options
  have wellFormed : disk.WellFormed := by decide
  have lookedUp : Encoding.find (answeredEncoding options.answer) ≠ .error .nullCharacter := by
    decide +kernel
  have short := Framer.frameCorpus_isolated {} options disk ⟨[], [['c']]⟩ wellFormed lookedUp
  have long := Framer.frameCorpus_isolated {} options disk detour wellFormed lookedUp
  have around : disk.locate detour = .ok [['c']] := by decide +kernel
  refine ⟨wellFormed, lookedUp, ?_, Disk.isDirectory_iff.mpr ⟨_, around, by decide⟩,
    long.1.mpr (.inr ⟨[['c']], "ab.lw".toList, around, by decide, by decide, by decide +kernel⟩)⟩
  have completes : ∃ run, Framer.Completes {} options disk ⟨[], [['c']]⟩ run := by
    by_contra none
    rcases short.1.mp none with missing | ⟨base, name, located, member, _, tooLong⟩
    · exact absurd missing (by decide +kernel)
    · have direct : disk.locate ⟨[], [['c']]⟩ = .ok [['c']] := by decide +kernel
      cases direct.symm.trans located
      have reached : ∀ name ∈ disk.entryNames [['c']],
          ¬ Disk.IsTooLong (Path.child ⟨[], [['c']]⟩ name) := by
        decide +kernel
      exact reached name member tooLong
  obtain ⟨run, completes⟩ := completes
  obtain ⟨base, _, fileByFile⟩ := short.2.2 run completes
  exact ⟨run, base, completes, fileByFile⟩

end Batch

end NameFraming
