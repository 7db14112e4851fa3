import NameFraming.Proofs.Text.CaseTable
import NameFraming.Proofs.Text.CharacterClasses
import NameFraming.Text.Uppercasing

/-! Upper-casing settles at once: no character of an upper-case form has another upper-case form, so
upper-casing twice is upper-casing once. And it makes no digits: a digit in an upper-case form was
there before. -/

namespace NameFraming

/-- The table of upper-casing; `upperChar` looks characters up in it. -/
def CaseTable.uppercase : CaseTable :=
  ⟨uppercaseExpansions, uppercaseRuns⟩

theorem CaseTable.uppercase_settles : uppercase.settles = true := by decide +kernel

theorem mem_upperChar_cases {c d : Char} (member : d ∈ upperChar c) :
    (∃ codes, expansion? uppercaseExpansions c.toNat = some codes ∧ d.toNat ∈ codes) ∨
      CaseRun.image? uppercaseRuns c.toNat = some d.toNat ∨ d = c ∧ upperChar c = [c] :=
  CaseTable.mem_mapChar_cases CaseTable.uppercase_settles member

theorem upperChar_of_mem_upperChar {c d : Char} (member : d ∈ upperChar c) :
    upperChar d = [d] :=
  CaseTable.mapChar_of_mem_mapChar CaseTable.uppercase_settles member

theorem eq_of_mem_upperChar_of_isDecimal {c d : Char} (member : d ∈ upperChar c)
    (decimal : isDecimal d = true) : d = c := by
  have ofExpansion : uppercaseExpansions.all (fun entry =>
      entry.2.all fun code => !decimalRanges.contains code) = true := by
    decide +kernel
  have ofRun : uppercaseRuns.all (fun run =>
      CodeRanges.apart [run.imageRange] decimalRanges) = true := by
    decide +kernel
  unfold isDecimal at decimal
  obtain ⟨codes, found, inCodes⟩ | found | ⟨same, _⟩ := mem_upperChar_cases member
  · have digitless := List.all_eq_true.mp ofExpansion _ (mem_of_expansion? found)
    have notDecimal := List.all_eq_true.mp digitless d.toNat inCodes
    simp [decimal] at notDecimal
  · obtain ⟨run, inRuns, maps, image⟩ := CaseRun.exists_run_of_image? found
    have within := maps.within_imageRange
    rw [← image] at within
    have contained : CodeRanges.contains [run.imageRange] d.toNat = true := by
      have lower : ¬ d.toNat < run.imageRange.1 := by omega
      simp only [CodeRanges.contains, if_neg lower, if_pos within.2]
    have notDecimal :=
      CodeRanges.contains_eq_false_of_apart (List.all_eq_true.mp ofRun run inRuns) contained
    rw [decimal] at notDecimal
    cases notDecimal
  · exact same

theorem upperChar_ne_nil (c : Char) : upperChar c ≠ [] := by
  have nonempty : uppercaseExpansions.all (fun entry => !entry.2.isEmpty) = true := by
    decide +kernel
  unfold upperChar
  split
  · rename_i codes found
    have entryNonempty := List.all_eq_true.mp nonempty _ (mem_of_expansion? found)
    simpa using entryNonempty
  · split <;> simp

@[simp] theorem upper_upper (text : Text) : upper (upper text) = upper text := by
  induction text with
  | nil => rfl
  | cons c rest ih =>
      have settled : (upperChar c).flatMap upperChar = upperChar c := by
        have same : (upperChar c).flatMap upperChar = (upperChar c).flatMap ([·]) :=
          List.flatMap_congr fun d member => upperChar_of_mem_upperChar member
        rw [same, List.flatMap_singleton']
      simp only [upper, List.flatMap_cons, List.flatMap_append] at ih ⊢
      rw [settled, ih]

/-- A text whose upper-case form is a digit run is that digit run. -/
theorem all_isDecimal_of_upper {text : Text} (decimal : (upper text).all isDecimal = true) :
    text.all isDecimal = true := by
  rw [List.all_eq_true] at decimal ⊢
  intro c member
  obtain ⟨d, inForm⟩ := List.exists_mem_of_ne_nil _ (upperChar_ne_nil c)
  have isDigit := decimal d (List.mem_flatMap.mpr ⟨c, member, inForm⟩)
  rw [← eq_of_mem_upperChar_of_isDecimal inForm isDigit]
  exact isDigit

/-- Only lower-case letters have another upper-case form within ASCII. -/
theorem isLowercase_of_mem_upperChar {c d : Char} (member : d ∈ upperChar c)
    (ascii : d.toNat < 0x80) (differs : upperChar c ≠ [c]) : isLowercase c = true := by
  have ofExpansion : uppercaseExpansions.all (fun entry =>
      entry.2.all (Nat.ble 0x80) || lowercaseRanges.contains entry.1) = true := by
    decide +kernel
  have ofRun : uppercaseRuns.all (fun run => Nat.ble 0x80 run.target ||
      (List.range' run.first (run.last + 1 - run.first)).all lowercaseRanges.contains) = true := by
    decide +kernel
  obtain ⟨codes, found, inCodes⟩ | found | ⟨_, fixed⟩ := mem_upperChar_cases member
  · have decided := List.all_eq_true.mp ofExpansion _ (mem_of_expansion? found)
    simp only [Bool.or_eq_true, List.all_eq_true, Nat.ble_eq] at decided
    rcases decided with beyond | lower
    · have := beyond d.toNat inCodes
      omega
    · exact lower
  · obtain ⟨run, inRuns, ⟨atLeast, atMost, _⟩, image⟩ := CaseRun.exists_run_of_image? found
    have decided := List.all_eq_true.mp ofRun run inRuns
    simp only [Bool.or_eq_true, List.all_eq_true, Nat.ble_eq, List.mem_range'_1] at decided
    rcases decided with beyond | lower
    · omega
    · exact lower c.toNat ⟨atLeast, by omega⟩
  · exact absurd fixed differs

/-- A word without lower-case letters is in upper case when its upper-case form is in ASCII. -/
theorem upper_eq_self_of_ascii {text : Text} (noLowercase : ∀ c ∈ text, isLowercase c = false)
    (ascii : ∀ d ∈ upper text, d.toNat < 0x80) : upper text = text := by
  have fixed : ∀ c ∈ text, upperChar c = [c] := by
    intro c member
    by_contra differs
    obtain ⟨d, inForm⟩ := List.exists_mem_of_ne_nil _ (upperChar_ne_nil c)
    have isAscii := ascii d (List.mem_flatMap.mpr ⟨c, member, inForm⟩)
    have lower := isLowercase_of_mem_upperChar inForm isAscii differs
    rw [noLowercase c member] at lower
    cases lower
  calc text.flatMap upperChar
      = text.flatMap ([·]) := List.flatMap_congr fixed
    _ = text := List.flatMap_singleton' text

end NameFraming
