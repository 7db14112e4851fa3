import Mathlib.Algebra.BigOperators.Group.List.Basic
import Mathlib.Algebra.Ring.Int.Defs
import NameFraming.Proofs.Corpus.Category

/-! The numbers of a report. Counts are added up key by key while the files go by; whatever that
order is, the map that comes out holds for every key the sum of its counts. The counts of two lists
of files are therefore those of both together. -/

namespace NameFraming

section Totals

variable {entries others : List (Text × Int)} {key : Text}

/-- All counts of a key together. -/
def amountOf (entries : List (Text × Int)) (key : Text) : Int :=
  ((entries.filter (·.1 = key)).map Prod.snd).sum

/-- What a map of totals holds for a key: nothing, if no entry has that key. -/
def totalOf? (entries : List (Text × Int)) (key : Text) : Option Int :=
  if key ∈ entries.map Prod.fst then some (amountOf entries key) else none

theorem amountOf_append :
    amountOf (entries ++ others) key = amountOf entries key + amountOf others key := by
  simp [amountOf]

theorem amountOf_of_not_mem (absent : key ∉ entries.map Prod.fst) : amountOf entries key = 0 := by
  have none : entries.filter (·.1 = key) = [] := by
    rw [List.filter_eq_nil_iff]
    intro entry member
    simp only [decide_eq_true_eq]
    rintro rfl
    exact absent (List.mem_map_of_mem member)
  rw [amountOf, none]
  rfl

theorem totalOf?_append :
    totalOf? (entries ++ others) key =
      Option.merge (· + ·) (totalOf? entries key) (totalOf? others key) := by
  unfold totalOf?
  rw [amountOf_append, List.map_append]
  by_cases first : key ∈ entries.map Prod.fst <;> by_cases second : key ∈ others.map Prod.fst
  · simp only [List.mem_append, first, second, or_self, if_true, Option.merge]
  · simp only [List.mem_append, first, second, or_false, if_true, if_false, Option.merge,
      amountOf_of_not_mem second, Int.add_zero]
  · simp only [List.mem_append, first, second, false_or, if_true, if_false, Option.merge,
      amountOf_of_not_mem first, Int.zero_add]
  · simp only [List.mem_append, first, second, or_self, if_false, Option.merge]

theorem totalOf?_perm (same : entries.Perm others) :
    totalOf? entries key = totalOf? others key := by
  have sameAmount : amountOf entries key = amountOf others key :=
    ((same.filter _).map Prod.snd).sum_eq
  rw [totalOf?, totalOf?, sameAmount]
  simp only [(same.map Prod.fst).mem_iff]

theorem totalOf?_singleton (first : Text) (count : Int) :
    totalOf? [(first, count)] key = if key = first then some count else none := by
  by_cases same : key = first
  · simp [totalOf?, amountOf, same]
  · simp [totalOf?, same]

theorem lookup_cons_eq (first : Text) (count : Int) :
    ((first, count) :: entries).lookup key =
      if key = first then some count else entries.lookup key := by
  rw [List.lookup_cons]
  by_cases same : key = first
  · simp [same]
  · rw [beq_eq_false_iff_ne.mpr same, if_neg same]

/-- A map that holds every key once holds the totals of its own entries. -/
theorem lookup_eq_totalOf? (distinct : (entries.map Prod.fst).Nodup) :
    entries.lookup key = totalOf? entries key := by
  induction entries with
  | nil => rfl
  | cons entry rest ih =>
      obtain ⟨first, count⟩ := entry
      obtain ⟨absent, laterDistinct⟩ := List.nodup_cons.mp distinct
      rw [lookup_cons_eq, ih laterDistinct, ← List.singleton_append, totalOf?_append,
        totalOf?_singleton]
      by_cases same : key = first
      · subst same
        simp [totalOf?, if_neg absent]
      · simp [same]

/-- The map holds the totals of the entries. -/
def Totals (held entries : List (Text × Int)) : Prop :=
  ∀ key, held.lookup key = totalOf? entries key

namespace Totals

variable {held : List (Text × Int)}

theorem mem_keys_iff (totals : Totals held entries) :
    key ∈ held.map Prod.fst ↔ key ∈ entries.map Prod.fst := by
  have listed : key ∈ held.map Prod.fst ↔ ¬ held.lookup key = none := by
    rw [List.lookup_eq_none_iff, List.mem_map]
    simp only [bne_iff_ne, not_forall, Decidable.not_not, exists_prop, @eq_comm _ key]
  rw [listed, totals key, totalOf?]
  simp

theorem lookup_of_mem (totals : Totals held entries) (listed : key ∈ held.map Prod.fst) :
    held.lookup key = some (amountOf entries key) := by
  rw [totals key, totalOf?, if_pos (totals.mem_keys_iff.mp listed)]

theorem of_perm (totals : Totals held entries) (distinct : (held.map Prod.fst).Nodup)
    (same : others.Perm held) : Totals others entries := by
  intro key
  rw [lookup_eq_totalOf? ((same.map Prod.fst).nodup_iff.mpr distinct), totalOf?_perm same,
    ← lookup_eq_totalOf? distinct, totals key]

end Totals

theorem length_le_sum {counts : List Int} (positive : ∀ count ∈ counts, 1 ≤ count) :
    (counts.length : Int) ≤ counts.sum := by
  induction counts with
  | nil => simp
  | cons count rest ih =>
      obtain ⟨first, later⟩ := List.forall_mem_cons.mp positive
      have restSum := ih later
      rw [List.length_cons, List.sum_cons]
      omega

theorem one_le_amountOf (positive : ∀ entry ∈ entries, 1 ≤ entry.2)
    (listed : key ∈ entries.map Prod.fst) : 1 ≤ amountOf entries key := by
  obtain ⟨entry, member, rfl⟩ := List.mem_map.mp listed
  have counted : entry.2 ∈ (entries.filter (·.1 = entry.1)).map Prod.snd :=
    List.mem_map_of_mem (List.mem_filter.mpr ⟨member, by simp⟩)
  have some := List.length_pos_of_mem counted
  have enough : _ ≤ amountOf entries entry.1 := length_le_sum fun count inCounts => by
    obtain ⟨other, filtered, rfl⟩ := List.mem_map.mp inCounts
    exact positive other (List.mem_of_mem_filter filtered)
  omega

end Totals

section Tally

variable {entries held : List (Text × Int)} {key other : Text} {count : Int}

/-- The totals of the keys, in the order in which these first occur. -/
def tally (entries : List (Text × Int)) : List (Text × Int) :=
  entries.foldl (fun held entry => addCount entry.1 entry.2 held) []

theorem tally_concat (entry : Text × Int) :
    tally (entries ++ [entry]) = addCount entry.1 entry.2 (tally entries) := by
  simp [tally]

theorem lookup_addCount :
    (addCount key count held).lookup other =
      Option.merge (· + ·) (held.lookup other) (totalOf? [(key, count)] other) := by
  induction held with
  | nil => simp [addCount, lookup_cons_eq, totalOf?_singleton]
  | cons entry rest ih =>
      obtain ⟨first, total⟩ := entry
      by_cases found : first = key
      · rw [addCount, if_pos found, lookup_cons_eq, lookup_cons_eq, totalOf?_singleton, found]
        by_cases same : other = key <;> simp [same]
      · rw [addCount, if_neg found, lookup_cons_eq, lookup_cons_eq, ih, totalOf?_singleton]
        by_cases same : other = first
        · simp [same, found]
        · simp [same]

theorem keys_addCount :
    (addCount key count held).map Prod.fst =
      if key ∈ held.map Prod.fst then held.map Prod.fst else held.map Prod.fst ++ [key] := by
  induction held with
  | nil => rfl
  | cons entry rest ih =>
      obtain ⟨first, total⟩ := entry
      by_cases found : first = key
      · simp [addCount, found]
      · have notFirst : key ≠ first := Ne.symm found
        simp only [addCount, if_neg found, List.map_cons, ih, List.mem_cons, notFirst, false_or]
        split <;> simp

theorem sum_addCount :
    ((addCount key count held).map Prod.snd).sum = (held.map Prod.snd).sum + count := by
  induction held with
  | nil => simp [addCount]
  | cons entry rest ih =>
      rw [addCount]
      split
      · simp only [List.map_cons, List.sum_cons]
        omega
      · simp only [List.map_cons, List.sum_cons, ih]
        omega

theorem totals_tally (entries : List (Text × Int)) : Totals (tally entries) entries := by
  intro key
  -- The loop adds to what it holds so far, so the last entry is taken off.
  induction entries using List.reverseRecOn with
  | nil => rfl
  | append_singleton rest entry ih => rw [tally_concat, lookup_addCount, ih, totalOf?_append]

theorem nodup_keys_tally (entries : List (Text × Int)) : ((tally entries).map Prod.fst).Nodup := by
  induction entries using List.reverseRecOn with
  | nil => exact List.nodup_nil
  | append_singleton rest entry ih =>
      rw [tally_concat, keys_addCount]
      split
      · exact ih
      · rename_i absent
        exact (List.perm_append_singleton _ _).nodup_iff.mpr (List.nodup_cons.mpr ⟨absent, ih⟩)

theorem sum_tally (entries : List (Text × Int)) :
    ((tally entries).map Prod.snd).sum = (entries.map Prod.snd).sum := by
  induction entries using List.reverseRecOn with
  | nil => rfl
  | append_singleton rest entry ih =>
      rw [tally_concat, sum_addCount, ih, List.map_append, List.sum_append]
      simp

end Tally

section Order

variable {entries : List (Text × Int)} {entry : Text × Int}

theorem insertByKey_perm : (insertByKey entry entries).Perm (entry :: entries) := by
  induction entries with
  | nil => exact .refl _
  | cons head rest ih =>
      rw [insertByKey]
      split
      · exact .refl _
      · exact (ih.cons head).trans (.swap entry head rest)

theorem insertByKey_ascending (absent : entry.1 ∉ entries.map Prod.fst)
    (ascending : (entries.map Prod.fst).Pairwise (· < ·)) :
    ((insertByKey entry entries).map Prod.fst).Pairwise (· < ·) := by
  induction entries with
  | nil => simp [insertByKey]
  | cons head rest ih =>
      obtain ⟨below, laterAscending⟩ := List.pairwise_cons.mp ascending
      rw [insertByKey]
      split
      · rename_i less
        refine List.pairwise_cons.mpr ⟨fun key member => ?_, ascending⟩
        rcases List.mem_cons.mp member with rfl | later
        · exact less
        · exact List.lt_trans less (below key later)
      · rename_i notLess
        obtain ⟨differs, notLater⟩ := not_or.mp (List.mem_cons.not.mp absent)
        refine List.pairwise_cons.mpr ⟨fun key member => ?_, ih notLater laterAscending⟩
        rcases List.mem_cons.mp ((insertByKey_perm.map Prod.fst).mem_iff.mp member) with rfl | later
        -- The order is total, and no key stands twice.
        · by_contra notAbove
          exact differs (List.le_antisymm (List.not_lt.mp notAbove) (List.not_lt.mp notLess))
        · exact below key later

theorem sorted_perm (entries : List (Text × Int)) :
    (entries.foldr insertByKey []).Perm entries := by
  induction entries with
  | nil => exact .refl _
  | cons entry rest ih => exact insertByKey_perm.trans (ih.cons entry)

theorem sorted_ascending (distinct : (entries.map Prod.fst).Nodup) :
    ((entries.foldr insertByKey []).map Prod.fst).Pairwise (· < ·) := by
  induction entries with
  | nil => exact .nil
  | cons entry rest ih =>
      obtain ⟨absent, laterDistinct⟩ := List.nodup_cons.mp distinct
      refine insertByKey_ascending (fun member => absent ?_) (ih laterDistinct)
      exact ((sorted_perm rest).map Prod.fst).mem_iff.mp member

end Order

section Reports

variable {files others : List FileOutcome} {report : Report}

/-- What the files of a report add to the numbers of the categories. -/
def fixedEntries (files : List FileOutcome) : List (Text × Int) :=
  (files.filter fun file => file.status == .fixed).map fun file => (file.category, 1)

theorem fixedByCategory_eq (report : Report) :
    report.fixedByCategory = (tally (fixedEntries report.files)).foldr insertByKey [] := by
  rw [Report.fixedByCategory, tally, fixedEntries, List.foldl_map]

theorem correctionsByRule_eq (report : Report) :
    report.correctionsByRule = tally (report.files.flatMap FileOutcome.corrections) :=
  rfl

theorem mem_keys_fixedEntries_iff {category : Text} :
    category ∈ (fixedEntries files).map Prod.fst ↔
      ∃ file ∈ files, file.status = .fixed ∧ file.category = category := by
  simp [fixedEntries, and_assoc]

theorem mem_keys_corrections_iff {rule : Text} :
    rule ∈ (files.flatMap FileOutcome.corrections).map Prod.fst ↔
      ∃ file ∈ files, rule ∈ file.corrections.map Prod.fst := by
  simp only [List.mem_map, List.mem_flatMap]
  constructor
  · intro ⟨entry, ⟨file, member, listed⟩, same⟩
    exact ⟨file, member, entry, listed, same⟩
  · intro ⟨file, member, entry, listed, same⟩
    exact ⟨entry, ⟨file, member, listed⟩, same⟩

theorem amountOf_fixedEntries (category : Text) :
    amountOf (fixedEntries files) category =
      files.countP fun file => file.status = .fixed ∧ file.category = category := by
  induction files with
  | nil => rfl
  | cons file rest ih =>
      have split : fixedEntries (file :: rest) = fixedEntries [file] ++ fixedEntries rest := by
        simp only [fixedEntries, ← List.map_append, ← List.filter_append, List.singleton_append]
      rw [split, amountOf_append, ih, List.countP_cons]
      by_cases fixed : file.status = .fixed <;> by_cases own : file.category = category <;>
        simp [fixedEntries, amountOf, fixed, own, Int.add_comm]

theorem amountOf_flatMap (rule : Text) :
    amountOf (files.flatMap FileOutcome.corrections) rule =
      (files.map fun file => amountOf file.corrections rule).sum := by
  induction files with
  | nil => rfl
  | cons file rest ih =>
      rw [List.flatMap_cons, amountOf_append, ih, List.map_cons, List.sum_cons]

theorem fixedByCategory_perm (report : Report) :
    report.fixedByCategory.Perm (tally (fixedEntries report.files)) := by
  rw [fixedByCategory_eq]
  exact sorted_perm _

theorem totals_fixedByCategory (report : Report) :
    Totals report.fixedByCategory (fixedEntries report.files) :=
  (totals_tally _).of_perm (nodup_keys_tally _) (fixedByCategory_perm report)

theorem totals_correctionsByRule (report : Report) :
    Totals report.correctionsByRule (report.files.flatMap FileOutcome.corrections) :=
  totals_tally _

theorem sum_fixedByCategory (report : Report) :
    (report.fixedByCategory.map Prod.snd).sum = report.fixed := by
  rw [((fixedByCategory_perm report).map Prod.snd).sum_eq, sum_tally, fixedEntries, List.map_map,
    Report.fixed, Report.countStatus, List.countP_eq_length_filter]
  simp [Function.comp_def]

end Reports

/-- The numbers of a summary, each by what the files say. -/
structure Summary.Accounts (summary : Summary) (files : List FileOutcome) : Prop where
  categoriesAscend : (summary.fixedByCategory.map Prod.fst).Pairwise (· < ·)
  categories : ∀ category, category ∈ summary.fixedByCategory.map Prod.fst ↔
    ∃ file ∈ files, file.status = .fixed ∧ file.category = category
  categoryCounts : ∀ category ∈ summary.fixedByCategory.map Prod.fst,
    summary.fixedByCategory.lookup category =
      some ((files.countP fun file => file.status = .fixed ∧ file.category = category : Nat) : Int)
  fixedSum : (summary.fixedByCategory.map Prod.snd).sum = summary.fixed
  rulesDistinct : (summary.corrections.map Prod.fst).Nodup
  rules : ∀ rule, rule ∈ summary.corrections.map Prod.fst ↔
    ∃ file ∈ files, rule ∈ file.corrections.map Prod.fst
  ruleTotals : ∀ rule ∈ summary.corrections.map Prod.fst,
    summary.corrections.lookup rule =
      some (files.map fun file => amountOf file.corrections rule).sum

theorem Report.accounts (report : Report) : report.summary.Accounts report.files where
  categoriesAscend := by
    rw [summary, fixedByCategory_eq]
    exact sorted_ascending (nodup_keys_tally _)
  categories category :=
    (totals_fixedByCategory report).mem_keys_iff.trans mem_keys_fixedEntries_iff
  categoryCounts category listed := by
    rw [← amountOf_fixedEntries]
    exact (totals_fixedByCategory report).lookup_of_mem listed
  fixedSum := sum_fixedByCategory report
  rulesDistinct := nodup_keys_tally _
  rules rule := by
    rw [← mem_keys_corrections_iff]
    exact (totals_correctionsByRule report).mem_keys_iff
  ruleTotals rule listed := by
    rw [← amountOf_flatMap]
    exact (totals_correctionsByRule report).lookup_of_mem listed

/-- Every number is the sum of two others, and so is every number of a map; a key that only one of
the maps has keeps its number. -/
structure Summary.IsSum (whole first second : Summary) : Prop where
  files : whole.files = first.files + second.files
  fixed : whole.fixed = first.fixed + second.fixed
  unchanged : whole.unchanged = first.unchanged + second.unchanged
  failed : whole.failed = first.failed + second.failed
  identifiersFramed : whole.identifiersFramed = first.identifiersFramed + second.identifiersFramed
  corrections : ∀ rule, whole.corrections.lookup rule =
    Option.merge (· + ·) (first.corrections.lookup rule) (second.corrections.lookup rule)
  fixedByCategory : ∀ category, whole.fixedByCategory.lookup category =
    Option.merge (· + ·) (first.fixedByCategory.lookup category)
      (second.fixedByCategory.lookup category)

theorem Report.isSum_of_append {first second whole : Report}
    (files : whole.files = first.files ++ second.files) :
    whole.summary.IsSum first.summary second.summary where
  files := by simp [summary, files]
  fixed := by simp [summary, fixed, countStatus, files]
  unchanged := by simp [summary, unchanged, countStatus, files]
  failed := by simp [summary, failed, countStatus, files]
  identifiersFramed := by
    simp only [summary, ← List.sum_eq_foldr, files, List.map_append, List.sum_append]
  corrections rule := by
    simp only [summary]
    rw [totals_correctionsByRule whole, files, List.flatMap_append, totalOf?_append,
      totals_correctionsByRule first, totals_correctionsByRule second]
  fixedByCategory category := by
    have entries : fixedEntries whole.files =
        fixedEntries first.files ++ fixedEntries second.files := by
      rw [files, fixedEntries, List.filter_append, List.map_append]
      rfl
    simp only [summary]
    rw [totals_fixedByCategory whole, entries, totalOf?_append, totals_fixedByCategory first,
      totals_fixedByCategory second]

/-- Two summaries have the same numbers, also in their maps, which may be in another order. -/
structure Summary.Agrees (left right : Summary) : Prop where
  files : left.files = right.files
  fixed : left.fixed = right.fixed
  unchanged : left.unchanged = right.unchanged
  failed : left.failed = right.failed
  identifiersFramed : left.identifiersFramed = right.identifiersFramed
  corrections : ∀ rule, left.corrections.lookup rule = right.corrections.lookup rule
  fixedByCategory : ∀ category,
    left.fixedByCategory.lookup category = right.fixedByCategory.lookup category

theorem Report.agrees_of_perm {report other : Report} (same : report.files.Perm other.files) :
    report.summary.Agrees other.summary where
  files := same.length_eq
  fixed := same.countP_eq _
  unchanged := same.countP_eq _
  failed := same.countP_eq _
  identifiersFramed := by
    simp only [summary, ← List.sum_eq_foldr]
    exact (same.map _).sum_eq
  corrections rule := by
    simp only [summary]
    rw [totals_correctionsByRule report, totals_correctionsByRule other]
    exact totalOf?_perm (same.flatMap_right _)
  fixedByCategory category := by
    simp only [summary]
    rw [totals_fixedByCategory report, totals_fixedByCategory other]
    exact totalOf?_perm ((same.filter _).map _)

section Batches

variable {draft : Draft} {options : BatchOptions} {disk : Disk} {directory : Path}
  {report : Report}

theorem length_eq_of_statuses {files : List FileOutcome}
    (statuses : ∀ file ∈ files,
      file.status = .fixed ∨ file.status = .unchanged ∨ file.status = .failed) :
    files.countP (·.status == .fixed) + files.countP (·.status == .unchanged) +
      files.countP (·.status == .failed) = files.length := by
  induction files with
  | nil => rfl
  | cons file rest ih =>
      obtain ⟨first, later⟩ := List.forall_mem_cons.mp statuses
      have restSum := ih later
      simp only [List.countP_cons, List.length_cons]
      rcases first with fixed | unchanged | failed <;> simp [*] <;> omega

/-- A rule that corrected nothing is not listed. -/
theorem one_le_correctionCounts {counts : Counts} :
    ∀ entry ∈ correctionCounts counts, 1 ≤ entry.2 := by
  intro entry member
  obtain ⟨⟨rule, count⟩, counted, rfl⟩ := List.mem_map.mp member
  have nonzero : count ≠ 0 := by simpa using (List.mem_filter.mp counted).2
  simp only
  omega

theorem Framer.one_le_corrections (framer : Framer) (options : BatchOptions) (disk : Disk)
    (path : Path) :
    ∀ entry ∈ (framer.frameFile options disk path).outcome.corrections, 1 ≤ entry.2 := by
  obtain ⟨_, _, _, _, _, outcome, rfl | ⟨counts, rfl⟩⟩ := framer.exists_outcome options disk path
  · rw [outcome]
    exact List.forall_mem_nil _
  · rw [outcome]
    exact one_le_correctionCounts

theorem Draft.Reports.partition (reports : draft.Reports options disk directory report) :
    report.summary.fixed + report.summary.unchanged + report.summary.failed =
      report.summary.files := by
  refine length_eq_of_statuses fun file member => ?_
  obtain ⟨name, held, _, rfl⟩ := reports.exists_frameFile member
  exact draft.framer.frameFile_status options held (directory.child name)

theorem Draft.Reports.one_le_total (reports : draft.Reports options disk directory report)
    {rule : Text} {total : Int} (found : report.summary.corrections.lookup rule = some total) :
    1 ≤ total := by
  have totals := totals_correctionsByRule report
  have listed : rule ∈ (report.files.flatMap FileOutcome.corrections).map Prod.fst := by
    by_contra absent
    rw [Report.summary, totals rule, totalOf?, if_neg absent] at found
    cases found
  rw [Report.summary, totals rule, totalOf?, if_pos listed] at found
  cases found
  refine one_le_amountOf (fun entry member => ?_) listed
  obtain ⟨file, inFiles, inFile⟩ := List.mem_flatMap.mp member
  obtain ⟨name, held, _, rfl⟩ := reports.exists_frameFile inFiles
  exact draft.framer.one_le_corrections options held (directory.child name) entry inFile

end Batches

/-- A summary accounts for its files, the order of the files does not matter, and lists of files may
be counted one by one. In the report of a batch every file has one of the three statuses, and no
rule is listed without a correction. -/
theorem Report.summary_adds_up :
    (∀ report : Report, report.summary.Accounts report.files) ∧
      (∀ first second whole : Report, whole.files = first.files ++ second.files →
        whole.summary.IsSum first.summary second.summary) ∧
      (∀ report other : Report, report.files.Perm other.files →
        report.summary.Agrees other.summary) ∧
      ∀ (draft : Draft) (options : BatchOptions) (disk : Disk) (directory : Path)
        (report : Report), draft.Reports options disk directory report →
        report.summary.fixed + report.summary.unchanged + report.summary.failed =
            report.summary.files ∧
          ∀ rule total, report.summary.corrections.lookup rule = some total → 1 ≤ total := by
  refine ⟨accounts, fun _ _ _ => isSum_of_append, fun _ _ => agrees_of_perm, ?_⟩
  intro draft options disk directory report reports
  exact ⟨reports.partition, fun _ _ => reports.one_le_total⟩

/-- Two files of one category that share a rule, added up in either order, and a directory with one
file that gets corrected. -/
theorem Report.summary_adds_up_shared :
    let operand := "keyword_operand".toList
    let file (name category : String) (count : Int) : FileOutcome :=
      { name := name.toList, category := category.toList, status := .fixed
        corrections := [(operand, count)] }
    let first : Report := ⟨['c'], [], true, [file "b" "loops" 3]⟩
    let second : Report := ⟨['c'], [], true, [file "a" "loops" (-1)]⟩
    let whole : Report := ⟨['c'], [], true, first.files ++ second.files⟩
    let turned : Report := ⟨['c'], [], true, second.files ++ first.files⟩
    let framer : Framer :=
      { vocabulary := .ofWords (["ANOTHER", "PUT", "TOGETHER"].map String.toList)
        rules := [.keywordOperand .standard] }
    let disk : Disk :=
      { nodes := [([['c']], .directory),
          ([['c'], "a.lw".toList], .file (Utf8.encode "PUT TOGETHER ANOTHER".toList))] }
    whole.summary.corrections.lookup operand = some 2 ∧
      whole.summary.fixedByCategory.lookup "loops".toList = some 2 ∧
      turned.summary.corrections.lookup operand = some 2 ∧
      ∃ report, Draft.Reports ⟨framer, true⟩ {} disk ⟨[], [['c']]⟩ report ∧
        report.summary.fixed + report.summary.unchanged + report.summary.failed = 1 ∧
        ∃ total, report.summary.corrections.lookup operand = some total ∧ 1 ≤ total := by
  intro operand file first second whole turned framer disk
  obtain ⟨accounts, isSum, agrees, balanced⟩ := Report.summary_adds_up
  have added := isSum first second whole rfl
  have sameEither := agrees whole turned (List.perm_append_comm)
  have corrections : whole.summary.corrections.lookup operand = some 2 := by
    rw [added.corrections]
    decide +kernel
  refine ⟨corrections, ?_, (sameEither.corrections _).symm.trans corrections, ?_⟩
  · rw [added.fixedByCategory]
    decide +kernel
  · have found : discover disk ⟨[], [['c']]⟩ (BatchOptions.suffix {}) =
        .ok [⟨[], [['c'], "a.lw".toList]⟩] := by
      decide +kernel
    obtain ⟨run, framed, outcomes, _⟩ := framer.frameCorpus_of_discover found
    obtain ⟨parted, positive⟩ := balanced _ _ _ _ _ (Framer.reports framed)
    have counted : (framer.frameFile {} disk ⟨[], [['c'], "a.lw".toList]⟩).outcome.corrections =
        [(operand, 1)] := by
      decide +kernel
    have total : run.report.summary.corrections.lookup operand = some 1 := by
      rw [summary, correctionsByRule_eq, outcomes]
      simp only [Framer.frameFiles, List.map_cons, List.map_nil, List.flatMap_cons,
        List.flatMap_nil, counted]
      decide +kernel
    refine ⟨run.report, Framer.reports framed, ?_, 1, total, positive operand 1 total⟩
    rw [parted, summary, outcomes]
    rfl

end NameFraming
