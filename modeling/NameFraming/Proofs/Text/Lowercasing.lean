import Mathlib.Data.List.Infix
import NameFraming.Proofs.Text.CaseTable
import NameFraming.Text.Lowercasing

/-! Lower-casing works from left to right and asks what stands around a capital sigma. All the same
a text is in lower case exactly when each of its characters is, so lower-casing leaves an ending in
lower case alone, whatever stands before it, and makes no other endings. -/

namespace NameFraming

variable {before text ending : Text} {c d : Char}

/-- The table of lower-casing; `lowerChar` looks characters up in it. -/
def CaseTable.lowercase : CaseTable :=
  ⟨lowercaseExpansions, lowercaseRuns⟩

theorem CaseTable.lowercase_settles : lowercase.settles = true := by decide +kernel

theorem lowerChar_of_mem_lowerChar (member : d ∈ lowerChar c) : lowerChar d = [d] :=
  CaseTable.mapChar_of_mem_mapChar CaseTable.lowercase_settles member

theorem lowerChar_smallSigmas : lowerChar 'σ' = ['σ'] ∧ lowerChar 'ς' = ['ς'] := by
  decide +kernel

theorem ne_capitalSigma_of_fixed (fixed : lowerChar c = [c]) : c ≠ 'Σ' := by
  rintro rfl
  have moved : lowerChar 'Σ' ≠ ['Σ'] := by decide +kernel
  exact moved fixed

theorem lowerChar_of_mem_lowerAfter (member : d ∈ lowerAfter before text) : lowerChar d = [d] := by
  induction text generalizing before with
  | nil => cases member
  | cons c rest ih =>
      rcases List.mem_append.mp member with here | later
      · split at here
        · split at here
          · obtain rfl := List.mem_singleton.mp here
            exact lowerChar_smallSigmas.2
          · obtain rfl := List.mem_singleton.mp here
            exact lowerChar_smallSigmas.1
        · exact lowerChar_of_mem_lowerChar here
      · exact ih later

theorem lowerAfter_of_fixed (fixed : ∀ c ∈ text, lowerChar c = [c]) :
    lowerAfter before text = text := by
  induction text generalizing before with
  | nil => rfl
  | cons c rest ih =>
      obtain ⟨here, later⟩ := List.forall_mem_cons.mp fixed
      rw [lowerAfter, if_neg (ne_capitalSigma_of_fixed here), here, ih later]
      rfl

theorem lowerAfter_isSuffix (before text ending : Text) :
    lowerAfter (text.reverse ++ before) ending <:+ lowerAfter before (text ++ ending) := by
  induction text generalizing before with
  | nil => exact List.suffix_rfl
  | cons c rest ih =>
      have later := ih (c :: before)
      rw [List.reverse_cons, List.append_assoc]
      exact later.trans (List.suffix_append _ _)

theorem lower_eq_self_iff : lower text = text ↔ ∀ c ∈ text, lowerChar c = [c] := by
  constructor
  · intro same c member
    rw [← same] at member
    exact lowerChar_of_mem_lowerAfter member
  · exact lowerAfter_of_fixed

theorem lower_eq_self_of_isSuffix (ends : ending <:+ lower text) : lower ending = ending :=
  lower_eq_self_iff.mpr fun _ member => lowerChar_of_mem_lowerAfter (ends.subset member)

theorem isSuffix_lower_iff (ends : ending <:+ text) :
    ending <:+ lower text ↔ lower ending = ending := by
  refine ⟨lower_eq_self_of_isSuffix, fun same => ?_⟩
  obtain ⟨front, rfl⟩ := ends
  have kept := lowerAfter_isSuffix [] front ending
  rwa [lowerAfter_of_fixed (lower_eq_self_iff.mp same)] at kept

end NameFraming
