import NameFraming.Proofs.Corpus.WriteBack
import NameFraming.Proofs.Framer.Conservation

/-! A batch that only checks, against one that writes. What framing leaves can always be written in
the encoding that was read, so the only thing that a check cannot foresee is an error of the disk. -/

namespace NameFraming

variable {framer : Framer} {answer : Option String} {suffix : Text} {disk : Disk}
  {path directory : Path} {location : Location} {bytes : Bytes}

/-- An encoding that a text was read in can write its characters again, and all of ASCII. -/
theorem Encoding.exists_encode_of_known {encoding : Encoding} {text after : Text}
    (decoded : encoding.decode? bytes = some text)
    (known : ∀ c ∈ after, c.toNat < 0x80 ∨ c ∈ text) :
    ∃ written, encoding.encode after = .ok written := by
  cases encoding with
  | singleByte table =>
      have encoded : table.encode? text = some bytes := SingleByte.encode?_eq_some_iff.mpr decoded
      obtain ⟨written, ofAfter⟩ := SingleByte.exists_encode?_of_known encoded known
      exact ⟨written, by simp only [encode, ofAfter]⟩
  | utf8 => exact ⟨_, rfl⟩
  | utf8Signed => exact ⟨_, rfl⟩
  | utf16 => exact ⟨_, rfl⟩
  | utf16Ordered order => exact ⟨_, rfl⟩

theorem Trusted.exists_encode_transform (trusted : Trusted answer bytes) (framer : Framer) :
    ∃ written, (decodeProgram answer bytes).encoding.encode
      (framer.transform (decodeProgram answer bytes).text) = .ok written := by
  have known : ∀ c ∈ framer.transform (decodeProgram answer bytes).text,
      c.toNat < 0x80 ∨ c ∈ (decodeProgram answer bytes).text := by
    intro c member
    refine (Framer.mem_transform member).imp_left fun bar => ?_
    rw [bar]
    decide
  cases trusted with
  | signed text written =>
      rw [written, decodeProgram_signed]
      exact ⟨_, rfl⟩
  | unsigned text unmarked written =>
      rw [written, decodeProgram_unsigned answer unmarked]
      exact ⟨_, rfl⟩
  | answered encoding text notUtf8 found decoded =>
      rw [decodeProgram_answered notUtf8 found decoded] at known ⊢
      exact encoding.exists_encode_of_known decoded known

/-- How the outcome of a file in a batch that checks tells its outcome in a batch that writes, when
files of some names cannot be written. -/
inductive Foretells (faults : List (Text × DiskError)) (checked : FileOutcome) : FileOutcome → Prop
  | same (harmless : checked.status = .fixed → faults.lookup checked.name = none) :
      Foretells faults checked checked
  | unwritable (error : DiskError) (fixed : checked.status = .fixed)
      (faulted : faults.lookup checked.name = some error) :
      Foretells faults checked
        { checked with
          status := .failed
          error := some ("[write_failed] cannot write ".toList ++ checked.name ++ [':', ' '] ++
            error.reason) }

theorem CorpusError.display_unwritable (path : Path) (reason : Text) :
    ((CorpusError.unwritable reason).problem path).display =
      "[write_failed] cannot write ".toList ++ path.name ++ [':', ' '] ++ reason := by
  have front : "[write_failed] cannot write ".toList =
      '[' :: ("write_failed".toList ++ [']', ' '] ++ "cannot write ".toList) := by
    decide +kernel
  rw [front]
  unfold Problem.display problem code message
  simp only [List.cons_append, List.append_assoc]

theorem Framer.foretells_frameFile (framer : Framer) (suffix : Text) (answer : Option String)
    (located : disk.locate path = .ok location)
    (found : disk.node? location = some (.file bytes)) :
    Foretells disk.writeErrors
      (framer.frameFile { suffix, write := false, answer } disk path).outcome
      (framer.frameFile { suffix, write := true, answer } disk path).outcome := by
  cases read : disk.read path with
  | error error =>
      simp only [frameFile, read]
      exact .same fun fixed => by cases fixed
  | ok bytes =>
      simp only [frameFile, read, finishFile]
      split
      · exact .same fun fixed => by cases fixed
      · split
        · exact .same fun fixed => by cases fixed
        · rename_i trust
          have trusted := trusted_of_decodeProgram (Bool.eq_false_iff.mpr trust)
          obtain ⟨written, encoded⟩ := trusted.exists_encode_transform framer
          have framed : (framer.frame (decodeProgram answer bytes).text).text =
            framer.transform (decodeProgram answer bytes).text := rfl
          simp only [Bool.false_eq_true, if_false, if_true, writeProgram, encodeProgram, framed,
            encoded, bind, Except.bind]
          cases fault : disk.writeErrors.lookup path.name with
          | none =>
              rw [Disk.write_eq_ok fault located found]
              exact .same fun _ => fault
          | some error =>
              have refused : disk.write path written = .error error := by
                simp [Disk.write, fault]
              rw [refused]
              simp only [FileRun.failed, CorpusError.display_unwritable]
              refine Foretells.unwritable error ?_ ?_
              · rfl
              · exact fault

/-- Whether a batch runs to its report does not depend on its writing. -/
theorem Framer.exists_completes_congr (framer : Framer) {write : Bool} {run : BatchRun}
    (completes : framer.Completes { suffix, write, answer } disk directory run) (other : Bool) :
    ∃ again, framer.Completes { suffix, write := other, answer } disk directory again := by
  obtain ⟨unbroken, framed⟩ := completes
  obtain ⟨undisturbed, each⟩ := framer.brokenBatch?_eq_none_iff.mp unbroken
  cases files : discover disk directory suffix with
  | error error => simp [frameCorpus, files, bind, Except.bind] at framed
  | ok found =>
      obtain ⟨again, framedAgain, _⟩ := @frameCorpus_of_discover
        { suffix, write := other, answer } disk directory framer found files
      exact ⟨again, framer.brokenBatch?_eq_none_iff.mpr ⟨undisturbed, each⟩, framedAgain⟩

/-- A batch that checks runs to its report when one that writes does, and foretells it file by
file. -/
theorem Framer.check_foretells_batch (framer : Framer) (suffix : Text) (answer : Option String)
    (disk : Disk) (directory : Path) (wellFormed : disk.WellFormed) :
    ((∃ checked, framer.Completes { suffix, write := false, answer } disk directory checked) ↔
      ∃ done, framer.Completes { suffix, write := true, answer } disk directory done) ∧
      ∀ checked done, framer.Completes { suffix, write := false, answer } disk directory checked →
        framer.Completes { suffix, write := true, answer } disk directory done →
        List.Forall₂ (Foretells disk.writeErrors) checked.report.files done.report.files := by
  refine ⟨⟨?_, ?_⟩, ?_⟩
  · intro ⟨checked, completes⟩
    exact framer.exists_completes_congr completes true
  · intro ⟨done, completes⟩
    exact framer.exists_completes_congr completes false
  · intro checked done checks writes
    obtain ⟨base, discovered, _, outcomes, _⟩ := checks.discovered wellFormed
    obtain ⟨other, discoveredOther, _, outcomesDone, _⟩ := writes.discovered wellFormed
    cases discovered.located.symm.trans discoveredOther.located
    have programs := discovered.programs wellFormed
    rw [outcomes, outcomesDone,
      (framer.isolated_frameFiles { suffix, write := false, answer } wellFormed programs).outcomes,
      (framer.isolated_frameFiles { suffix, write := true, answer } wellFormed programs).outcomes,
      List.forall₂_map_left_iff, List.forall₂_map_right_iff, List.forall₂_same]
    intro name member
    obtain ⟨content, found⟩ := programs.files name member
    exact framer.foretells_frameFile suffix answer (programs.located name member) found

/-- A program in Latin-1 that cannot be written. -/
theorem Framer.check_foretells_batch_full_disk :
    let disk : Disk :=
      { nodes := [([['c']], .directory), ([['c'], "ab.lw".toList], .file [0x51, 0x20, 0xFF])]
        writeErrors := [("ab.lw".toList, .system 28 "No space left on device".toList)] }
    let framer : Framer := { vocabulary := .ofWords ["OF".toList], rules := [] }
    disk.WellFormed ∧
      ∃ checked done,
        framer.Completes { write := false, answer := some "latin_1" } disk ⟨[], [['c']]⟩
          checked ∧
        framer.Completes { write := true, answer := some "latin_1" } disk ⟨[], [['c']]⟩ done ∧
        checked.report.files.map FileOutcome.status = [.fixed] ∧
        done.report.files.map FileOutcome.status = [.failed] := by
  intro disk framer
  have wellFormed : disk.WellFormed := by decide
  have discovered : Discovered disk ⟨[], [['c']]⟩ ['.', 'l', 'w'] [['c']] :=
    ⟨by decide +kernel, by decide +kernel, by decide +kernel⟩
  have names : programNames disk [['c']] ['.', 'l', 'w'] = ["ab.lw".toList] := by
    have filtered : (disk.fileNames [['c']]).filter (fun name => ['.', 'l', 'w'].isSuffixOf name) =
        ["ab.lw".toList] := by decide +kernel
    rw [programNames, filtered, List.mergeSort_singleton]
  obtain ⟨checked, checks⟩ := @exists_completes { write := false, answer := some "latin_1" } disk
    ⟨[], [['c']]⟩ [['c']] framer wellFormed discovered
    (discovered.unbroken wellFormed (by decide +kernel))
  obtain ⟨agree, foretells⟩ := check_foretells_batch framer ['.', 'l', 'w'] (some "latin_1") disk
    ⟨[], [['c']]⟩ wellFormed
  obtain ⟨done, writes⟩ := agree.mp ⟨checked, checks⟩
  have each := foretells checked done checks writes
  obtain ⟨base, again, _, outcomes, _⟩ := checks.discovered wellFormed
  cases discovered.located.symm.trans again.located
  have evaluated : checked.report.files.map (fun file => (file.name, file.status)) =
      [("ab.lw".toList, .fixed)] := by
    rw [outcomes, names]
    decide +kernel
  obtain ⟨file, only, isFixed⟩ := List.map_eq_singleton_iff.mp evaluated
  obtain ⟨sameName, fixed⟩ := Prod.mk.inj isFixed
  rw [only, List.forall₂_cons_left_iff] at each
  obtain ⟨written, rest, foretold, none, whole⟩ := each
  cases none
  refine ⟨wellFormed, checked, done, checks, writes, ?_, ?_⟩
  · rw [only, List.map_singleton, fixed]
  · rw [whole, List.map_singleton]
    cases foretold with
    | same harmless =>
        have sound := harmless fixed
        rw [sameName] at sound
        exact absurd sound (by decide)
    | unwritable error _ _ => rfl

end NameFraming
