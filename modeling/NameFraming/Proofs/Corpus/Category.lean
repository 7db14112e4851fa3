import NameFraming.Corpus.DraftBatch
import NameFraming.Proofs.Corpus.Isolation

/-! Where the programs of a report are filed. A program belongs to the category that its name says
once the suffix is cut off. The cut counts from the end of the name, and a count of zero cuts off
everything: with the empty suffix, which every name has, almost all programs lose their category. -/

namespace NameFraming

/-- The parts of a name: what stands before its first hyphen, and what stands behind it. -/
inductive Hyphenated : Text → Text → Option Text → Prop where
  | whole {name : Text} : '-' ∉ name → Hyphenated name name none
  | parted {before after : Text} : '-' ∉ before →
      Hyphenated (before ++ '-' :: after) before (some after)

/-- A name gives a program its category and subcategory. A part that is empty gives none. -/
def FiledUnder (name category : Text) (subcategory : Option Text) : Prop :=
  ∃ before after, Hyphenated name before after ∧
    category = (if before = [] then uncategorized else before) ∧
    subcategory = after.filter (· ≠ [])

section Parts

variable {name before : Text} {after : Option Text}

theorem hyphenated_iff :
    Hyphenated name before after ↔
      before = name.takeWhile (· ≠ '-') ∧ after = (name.dropWhile (· ≠ '-')).tail? := by
  constructor
  · intro parts
    cases parts with
    | whole noHyphen =>
        have all : ∀ c ∈ name, decide (c ≠ '-') = true := by
          intro c member
          exact decide_eq_true fun same => noHyphen (same ▸ member)
        rw [List.takeWhile_eq_self_iff.mpr all, List.dropWhile_eq_nil_iff.mpr all]
        exact ⟨rfl, rfl⟩
    | parted noHyphen =>
        have all : ∀ c ∈ before, decide (c ≠ '-') = true := by
          intro c member
          exact decide_eq_true fun same => noHyphen (same ▸ member)
        rw [takeWhile_append_of_stop all (by simp), dropWhile_append_of_stop all (by simp)]
        exact ⟨rfl, rfl⟩
  · rintro ⟨rfl, rfl⟩
    have noHyphen : '-' ∉ name.takeWhile (· ≠ '-') := by
      intro member
      have differs := List.mem_takeWhile_imp member
      simp at differs
    have whole := List.takeWhile_append_dropWhile (p := (· ≠ '-')) (l := name)
    have stops := dropWhile_head?_not (· ≠ '-') name
    cases rest : name.dropWhile (· ≠ '-') with
    | nil =>
        rw [rest, List.append_nil] at whole
        rw [whole] at noHyphen ⊢
        exact .whole noHyphen
    | cons hyphen later =>
        rw [rest] at whole stops
        obtain rfl : hyphen = '-' := by simpa using stops hyphen rfl
        -- The name stands on both sides of `whole`, so it is put in behind the parts.
        have parts : Hyphenated (_ ++ '-' :: later) _ (some later) := .parted noHyphen
        rw [whole] at parts
        exact parts

theorem filedUnder_categorize (path : Path) (suffix : Text) :
    FiledUnder (path.programName suffix) (categorize path suffix).1
      (categorize path suffix).2 := by
  refine ⟨_, _, hyphenated_iff.mpr ⟨rfl, rfl⟩, ?_, ?_⟩
  · simp [categorize]
  · rw [categorize]
    cases List.dropWhile (· ≠ '-') (path.programName suffix) with
    | nil => rfl
    | cons hyphen later => cases later <;> simp [Option.filter]

theorem FiledUnder.eq {category : Text} {subcategory : Option Text}
    (filed : FiledUnder name category subcategory) (parts : Hyphenated name before after) :
    category = (if before = [] then uncategorized else before) ∧
      subcategory = after.filter (· ≠ []) := by
  obtain ⟨_, _, sameParts, filedAs⟩ := filed
  obtain ⟨rfl, rfl⟩ := hyphenated_iff.mp sameParts
  obtain ⟨rfl, rfl⟩ := hyphenated_iff.mp parts
  exact filedAs

/-- The names that say no more than a program without a category does. -/
def namesOfUncategorized : List Text :=
  [[], ['-'], uncategorized, uncategorized ++ ['-']]

theorem filedUnder_uncategorized_iff :
    FiledUnder name uncategorized none ↔ name ∈ namesOfUncategorized := by
  have noHyphen : '-' ∉ uncategorized := by decide
  constructor
  · intro ⟨before, after, parts, category, subcategory⟩
    have first : before = [] ∨ before = uncategorized := by
      by_cases empty : before = []
      · exact .inl empty
      · exact .inr (by rw [category, if_neg empty])
    cases parts with
    | whole _ => rcases first with rfl | rfl <;> simp [namesOfUncategorized]
    | @parted _ later _ =>
        obtain rfl : later = [] := by simpa [Option.filter] using subcategory
        rcases first with rfl | rfl <;> simp [namesOfUncategorized]
  · intro member
    simp only [namesOfUncategorized, List.mem_cons, List.not_mem_nil, or_false] at member
    rcases member with rfl | rfl | rfl | rfl
    · exact ⟨[], none, .whole (by simp), rfl, rfl⟩
    · exact ⟨[], some [], hyphenated_iff.mpr ⟨rfl, rfl⟩, rfl, rfl⟩
    · exact ⟨uncategorized, none, .whole noHyphen, rfl, rfl⟩
    · exact ⟨uncategorized, some [], .parted noHyphen, rfl, rfl⟩

end Parts

section Names

variable {path directory : Path} {suffix base : Text}

theorem Path.name_child (directory : Path) (name : Text) : (directory.child name).name = name := by
  simp [Path.name, Path.child]

theorem Path.programName_of_append (ends : path.name = base ++ suffix) :
    path.programName suffix = if suffix = [] then [] else base := by
  have isSuffix : suffix.isSuffixOf path.name = true :=
    List.isSuffixOf_iff_suffix.mpr ⟨base, ends.symm⟩
  rw [programName, if_pos isSuffix, ends]
  by_cases empty : suffix = []
  · simp [empty]
  · simp [empty]

/-- The name of a program gives it its category, unless the whole name was cut off. -/
theorem filedUnder_categorize_iff (ends : path.name = base ++ suffix) :
    FiledUnder base (categorize path suffix).1 (categorize path suffix).2 ↔
      suffix ≠ [] ∨ path.name ∈ namesOfUncategorized := by
  have filed := filedUnder_categorize path suffix
  rw [Path.programName_of_append ends] at filed
  by_cases empty : suffix = []
  · rw [if_pos empty] at filed
    obtain ⟨category, subcategory⟩ := filed.eq (.whole (by simp))
    rw [category, subcategory, ends, empty, List.append_nil]
    simpa using filedUnder_uncategorized_iff
  · rw [if_neg empty] at filed
    exact ⟨fun _ => .inl empty, fun _ => filed⟩

end Names

section Reports

variable {framer : Framer} {draft : Draft} {options : BatchOptions} {disk : Disk}
  {directory : Path} {report : Report} {file : FileOutcome}

theorem Framer.mem_frameFiles {paths : List Path} {run : FileRun}
    (member : run ∈ (framer.frameFiles options disk paths).2) :
    ∃ path ∈ paths, ∃ held, run = framer.frameFile options held path := by
  induction paths generalizing disk with
  | nil => simp [frameFiles] at member
  | cons path rest ih =>
      rcases List.mem_cons.mp member with rfl | later
      · exact ⟨path, List.mem_cons_self, disk, rfl⟩
      · obtain ⟨other, listed, held, same⟩ := ih later
        exact ⟨other, List.mem_cons_of_mem path listed, held, same⟩

/-- A batch ran to this report. Rules that are not written yet do no harm while no file can be
read. -/
def Draft.Reports (draft : Draft) (options : BatchOptions) (disk : Disk) (directory : Path)
    (report : Report) : Prop :=
  ∃ events run, draft.frameCorpus options disk directory = .ok (events, .ok run) ∧
    run.report = report

theorem Framer.reports {run : BatchRun}
    (framed : framer.frameCorpus options disk directory = .ok run) :
    Draft.Reports ⟨framer, true⟩ options disk directory run.report :=
  ⟨run.events, run, by simp [Draft.frameCorpus, framed, bind, Except.bind], rfl⟩

theorem Draft.frameCorpus_eq_ok {events : List Event} {run : BatchRun}
    (framed : draft.frameCorpus options disk directory = .ok (events, .ok run)) :
    draft.framer.frameCorpus options disk directory = .ok run := by
  cases found : draft.framer.frameCorpus options disk directory with
  | error error => simp [frameCorpus, found, bind, Except.bind] at framed
  | ok other =>
      simp only [frameCorpus, found, bind, Except.bind] at framed
      split at framed
      · cases framed
        rfl
      · split at framed
        · cases framed
        · split at framed
          · cases framed
            rfl
          · cases framed

/-- Every outcome of a report is that of a program of the directory, on some disk. -/
theorem Draft.Reports.exists_frameFile (reports : draft.Reports options disk directory report)
    (member : file ∈ report.files) :
    ∃ name held, options.suffix <:+ name ∧
      file = (draft.framer.frameFile options held (directory.child name)).outcome := by
  obtain ⟨events, run, framed, rfl⟩ := reports
  have ofFramer := Draft.frameCorpus_eq_ok framed
  cases files : discover disk directory options.suffix with
  | error error => simp [Framer.frameCorpus, files, bind, Except.bind] at ofFramer
  | ok paths =>
      obtain ⟨_, same, outcomes, _⟩ := draft.framer.frameCorpus_of_discover files
      cases ofFramer.symm.trans same
      rw [outcomes] at member
      obtain ⟨fileRun, inRuns, rfl⟩ := List.mem_map.mp member
      obtain ⟨path, inPaths, held, rfl⟩ := Framer.mem_frameFiles inRuns
      obtain ⟨location, _, _, rfl⟩ := discover_eq_ok_iff.mp files
      obtain ⟨name, inNames, rfl⟩ := List.mem_map.mp inPaths
      rw [programNames, List.mem_mergeSort, List.mem_filter, List.isSuffixOf_iff_suffix] at inNames
      exact ⟨name, held, inNames.2, rfl⟩

/-- The name of a file gives its outcome a place, its text the counts. The status and the error come
last and change neither. -/
theorem Framer.exists_outcome (framer : Framer) (options : BatchOptions) (disk : Disk)
    (path : Path) :
    ∃ encoding identifiersFramed corrections status error,
      (framer.frameFile options disk path).outcome =
        { FileRun.blankOutcome path options.suffix with
          encoding, identifiersFramed, corrections, status, error } ∧
      (corrections = [] ∨ ∃ counts, corrections = correctionCounts counts) := by
  cases readResult : disk.read path with
  | error error =>
      simp only [frameFile, readResult, FileRun.failed]
      exact ⟨_, _, _, _, _, rfl, .inl rfl⟩
  | ok bytes =>
      simp only [frameFile, readResult, finishFile]
      repeat' split
      all_goals exact ⟨_, _, _, _, _, rfl, .inr ⟨_, rfl⟩⟩

theorem Framer.frameFile_place (framer : Framer) (options : BatchOptions) (disk : Disk)
    (path : Path) :
    (framer.frameFile options disk path).outcome.name = path.name ∧
      (framer.frameFile options disk path).outcome.category = (categorize path options.suffix).1 ∧
      (framer.frameFile options disk path).outcome.subcategory =
        (categorize path options.suffix).2 := by
  obtain ⟨_, _, _, _, _, outcome, _⟩ := framer.exists_outcome options disk path
  rw [outcome]
  exact ⟨rfl, rfl, rfl⟩

/-- Every reported file is filed as its name without the suffix says, exactly if the suffix is not
empty or the name says nothing. Where both parts are given, they join to the name again. -/
theorem Draft.Reports.filed_by_name (reports : draft.Reports options disk directory report)
    (member : file ∈ report.files) :
    ∃ base, file.name = base ++ options.suffix ∧
      (FiledUnder base file.category file.subcategory ↔
        options.suffix ≠ [] ∨ file.name ∈ namesOfUncategorized) ∧
      (options.suffix = [] → file.category = uncategorized ∧ file.subcategory = none) ∧
      (options.suffix ≠ [] → ∀ before after, Hyphenated base before (some after) →
        before ≠ [] → after ≠ [] → file.subcategory = some after ∧
          file.category ++ '-' :: after ++ options.suffix = file.name) := by
  obtain ⟨name, held, ⟨base, ends⟩, rfl⟩ := reports.exists_frameFile member
  obtain ⟨ownName, category, subcategory⟩ :=
    draft.framer.frameFile_place options held (directory.child name)
  have parted : (directory.child name).name = base ++ options.suffix := by
    rw [Path.name_child, ends]
  have filed := filedUnder_categorize (directory.child name) options.suffix
  rw [Path.programName_of_append parted] at filed
  rw [ownName, category, subcategory]
  refine ⟨base, parted, filedUnder_categorize_iff parted, fun empty => ?_, ?_⟩
  · rw [if_pos empty] at filed
    exact filed.eq (.whole (by simp))
  · intro nonempty before after parts someBefore someAfter
    rw [if_neg nonempty] at filed
    obtain ⟨sameCategory, sameSubcategory⟩ := filed.eq parts
    rw [if_neg someBefore] at sameCategory
    refine ⟨by rw [sameSubcategory]; simp [Option.filter, someAfter], ?_⟩
    rw [sameCategory, parted]
    cases parts
    rfl

/-- One directory under two suffixes. The name of its program is read up to the suffix, and not at
all when there is none. -/
theorem Draft.Reports.filed_by_name_without_suffix :
    let name := "loops-nested.lw".toList
    let disk : Disk := { nodes := [([['c']], .directory), ([['c'], name], .file [])] }
    (∃ report, Draft.Reports ⟨{}, true⟩ {} disk ⟨[], [['c']]⟩ report ∧
      ∃ file ∈ report.files, file.name = name ∧
        FiledUnder "loops-nested".toList file.category file.subcategory ∧
        file.category ++ '-' :: "nested".toList ++ ".lw".toList = name) ∧
      ∃ report, Draft.Reports ⟨{}, true⟩ { suffix := [] } disk ⟨[], [['c']]⟩ report ∧
        ∃ file ∈ report.files, file.name = name ∧
          ¬ FiledUnder name file.category file.subcategory := by
  intro name disk
  have reported : ∀ options : BatchOptions,
      discover disk ⟨[], [['c']]⟩ options.suffix = .ok [⟨[], [['c'], name]⟩] →
      ∃ report, Draft.Reports ⟨{}, true⟩ options disk ⟨[], [['c']]⟩ report ∧
        ∃ file ∈ report.files, file.name = name := by
    intro options found
    obtain ⟨run, framed, outcomes, _⟩ := Framer.frameCorpus_of_discover {} found
    refine ⟨run.report, Framer.reports framed, ?_⟩
    rw [outcomes]
    exact ⟨_, List.mem_cons_self, (Framer.frameFile_place _ _ _ _).1⟩
  refine ⟨?_, ?_⟩
  · obtain ⟨report, reports, file, member, named⟩ := reported {} (by decide +kernel)
    obtain ⟨base, ends, filed, _, joins⟩ := reports.filed_by_name member
    obtain rfl : "loops-nested".toList = base := by
      rw [named] at ends
      exact List.append_cancel_right ends
    have parts : Hyphenated "loops-nested".toList "loops".toList (some "nested".toList) :=
      hyphenated_iff.mpr (by decide +kernel)
    exact ⟨report, reports, file, member, named, filed.mpr (.inl (by decide)),
      (joins (by decide) _ _ parts (by decide) (by decide)).2.trans named⟩
  · obtain ⟨report, reports, file, member, named⟩ := reported { suffix := [] } (by decide +kernel)
    obtain ⟨base, ends, filed, _⟩ := reports.filed_by_name member
    rw [named, List.append_nil] at ends
    refine ⟨report, reports, file, member, named, ?_⟩
    rw [ends, filed, named]
    decide +kernel

end Reports

end NameFraming
