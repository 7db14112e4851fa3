import Mathlib.Data.List.Chain
import Mathlib.Data.List.TakeWhile
import NameFraming.Proofs.Text.Uppercasing

/-! Upper-casing makes no lower-case characters. Nearly every character that it changes is a
lower-case one; the others are the few that show a capital and a small letter in one. -/

namespace NameFraming

namespace CodeRanges

variable {ranges : CodeRanges} {codes : List Nat} {code : Nat}

/-- The codes that are in no interval, when both lists are ascending. -/
def outside : CodeRanges → List Nat → List Nat
  | [], codes => codes
  | (first, last) :: ranges, codes =>
      codes.takeWhile (Nat.blt · first) ++
        outside ranges ((codes.dropWhile (Nat.blt · first)).dropWhile fun code =>
          Nat.ble first code && Nat.ble code last)

theorem mem_outside_or_within (member : code ∈ codes) :
    code ∈ outside ranges codes ∨ ∃ range ∈ ranges, range.1 ≤ code ∧ code ≤ range.2 := by
  induction ranges generalizing codes with
  | nil => exact .inl member
  | cons range rest ih =>
      have split : ∀ (passes : Nat → Bool) (codes : List Nat), code ∈ codes →
          code ∈ codes.takeWhile passes ∨ code ∈ codes.dropWhile passes := by
        intro passes codes member
        rwa [← List.mem_append, List.takeWhile_append_dropWhile]
      rcases split (Nat.blt · range.1) codes member with below | fromFirst
      · exact .inl (List.mem_append_left _ below)
      · rcases split (fun code => Nat.ble range.1 code && Nat.ble code range.2) _ fromFirst with
          inside | later
        · have within := List.mem_takeWhile_imp inside
          simp only [Bool.and_eq_true, Nat.ble_eq] at within
          exact .inr ⟨range, List.mem_cons_self, within⟩
        · refine (ih later).imp (List.mem_append_right _) ?_
          intro ⟨other, inRest, within⟩
          exact ⟨other, List.mem_cons_of_mem range inRest, within⟩

theorem contains_of_within (ascending : ranges.Pairwise fun one other => one.1 ≤ other.1)
    {range : Nat × Nat} (member : range ∈ ranges) (lower : range.1 ≤ code)
    (upper : code ≤ range.2) : ranges.contains code = true := by
  induction ranges with
  | nil => cases member
  | cons first rest ih =>
      obtain ⟨before, restAscending⟩ := List.pairwise_cons.mp ascending
      rcases List.mem_cons.mp member with rfl | inRest
      · rw [contains, if_neg (by omega), if_pos upper]
      · have atLeast := before range inRest
        rw [contains, if_neg (by omega)]
        split
        · rfl
        · exact ih restAscending inRest

end CodeRanges

theorem lowercaseRanges_ascending :
    lowercaseRanges.Pairwise fun one other => one.1 ≤ other.1 := by
  have ascending : (lowercaseRanges.map Prod.fst).IsChain (· ≤ ·) := by decide +kernel
  exact List.pairwise_map.mp (List.isChain_iff_pairwise.mp ascending)

theorem mem_outside_or_isLowercase {codes : List Nat} {c : Char} (member : c.toNat ∈ codes) :
    c.toNat ∈ lowercaseRanges.outside codes ∨ isLowercase c = true := by
  refine (CodeRanges.mem_outside_or_within member).imp_right ?_
  intro ⟨range, inRanges, lower, upper⟩
  exact CodeRanges.contains_of_within lowercaseRanges_ascending inRanges lower upper

theorem isLowercase_of_image? {c : Char} {image : Nat}
    (found : CaseRun.image? uppercaseRuns c.toNat = some image)
    (lowercase : lowercaseRanges.contains image = true) : isLowercase c = true := by
  have sources : lowercaseRanges.outside (uppercaseRuns.flatMap fun run =>
      List.range' run.first ((run.last - run.first) / run.step + 1) run.step) =
      [0x1C5, 0x1C8, 0x1CB, 0x1F2] := by
    decide +kernel
  have images : [0x1C5, 0x1C8, 0x1CB, 0x1F2].all (fun code =>
      !((CaseRun.image? uppercaseRuns code).any lowercaseRanges.contains)) = true := by
    decide +kernel
  obtain ⟨run, inRuns, ⟨atLeast, atMost, onStep⟩, _⟩ := CaseRun.exists_run_of_image? found
  have source : c.toNat ∈ uppercaseRuns.flatMap fun run =>
      List.range' run.first ((run.last - run.first) / run.step + 1) run.step := by
    refine List.mem_flatMap.mpr ⟨run, inRuns, List.mem_range'.mpr
      ⟨(c.toNat - run.first) / run.step, ?_, ?_⟩⟩
    · exact Nat.lt_succ_of_le (Nat.div_le_div_right (by omega))
    · have whole := Nat.mul_div_cancel' (Nat.dvd_of_mod_eq_zero onStep)
      omega
  rcases mem_outside_or_isLowercase source with stray | isLower
  · rw [sources] at stray
    have capital := List.all_eq_true.mp images _ stray
    simp [found, lowercase] at capital
  · exact isLower

theorem isLowercase_of_expansion? {c : Char} {image : Nat} {codes : List Nat}
    (found : expansion? uppercaseExpansions c.toNat = some codes) (member : image ∈ codes)
    (lowercase : lowercaseRanges.contains image = true) : isLowercase c = true := by
  have images : uppercaseExpansions.all (fun entry =>
      !(lowercaseRanges.outside (uppercaseExpansions.map Prod.fst)).contains entry.1 ||
        entry.2.all fun image => CodeRanges.apart [(image, image)] lowercaseRanges) = true := by
    decide +kernel
  have source : c.toNat ∈ uppercaseExpansions.map Prod.fst :=
    List.mem_map.mpr ⟨_, mem_of_expansion? found, rfl⟩
  rcases mem_outside_or_isLowercase source with stray | isLower
  · have capitals := List.all_eq_true.mp images _ (mem_of_expansion? found)
    simp only [List.contains_iff_mem.mpr stray, Bool.not_true, Bool.false_or,
      List.all_eq_true] at capitals
    have single : CodeRanges.contains [(image, image)] image = true := by
      simp [CodeRanges.contains]
    have notLower := CodeRanges.contains_eq_false_of_apart (capitals image member) single
    rw [lowercase] at notLower
    cases notLower
  · exact isLower

theorem isLowercase_of_upperChar {c d : Char} (member : d ∈ upperChar c)
    (lowercase : isLowercase d = true) : isLowercase c = true := by
  obtain ⟨codes, found, inCodes⟩ | found | ⟨rfl, _⟩ := mem_upperChar_cases member
  · exact isLowercase_of_expansion? found inCodes lowercase
  · exact isLowercase_of_image? found lowercase
  · exact lowercase

theorem exists_isLowercase_of_upper {text : Text} {d : Char} (inForm : d ∈ upper text)
    (lowercase : isLowercase d = true) : ∃ c ∈ text, isLowercase c = true := by
  obtain ⟨c, member, ofChar⟩ := List.mem_flatMap.mp inForm
  exact ⟨c, member, isLowercase_of_upperChar ofChar lowercase⟩

end NameFraming
