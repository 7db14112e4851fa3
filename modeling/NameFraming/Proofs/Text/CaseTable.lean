import Mathlib.Data.List.Basic
import NameFraming.Text.CaseRun

/-! What a table of case mappings makes of a character, and when it settles at once: no character
that it produces is one that it maps further. A table is finite but its runs are long, so a run is
compared with the others as a whole and not code point by code point. -/

namespace NameFraming

namespace CaseRun

variable {runs : List CaseRun} {run : CaseRun} {code image : Nat}

def Maps (run : CaseRun) (code : Nat) : Prop :=
  run.first ≤ code ∧ code ≤ run.last ∧ (code - run.first) % run.step = 0

theorem exists_run_of_image? (found : image? runs code = some image) :
    ∃ run ∈ runs, run.Maps code ∧ image = run.target + (code - run.first) := by
  induction runs with
  | nil => cases found
  | cons run rest ih =>
      simp only [image?] at found
      split at found
      · cases found
      · rename_i atLeast
        split at found
        · rename_i atMost
          split at found
          · rename_i onStep
            cases found
            exact ⟨run, by simp, ⟨by omega, atMost, onStep⟩, rfl⟩
          · cases found
        · obtain ⟨other, member, maps⟩ := ih found
          exact ⟨other, by simp [member], maps⟩

def imageRange (run : CaseRun) : Nat × Nat :=
  (run.target, run.target + (run.last - run.first))

theorem Maps.within_imageRange (maps : run.Maps code) :
    run.imageRange.1 ≤ run.target + (code - run.first) ∧
      run.target + (code - run.first) ≤ run.imageRange.2 := by
  obtain ⟨_, last, _⟩ := maps
  simp only [imageRange]
  omega

/-- Whether no image of one run is mapped by the other: their intervals do not meet, or the other
run takes every second code point and the images are among those that it leaves out. -/
def avoids (run other : CaseRun) : Bool :=
  Nat.blt run.imageRange.2 other.first || Nat.blt other.last run.imageRange.1 ||
    (Nat.beq run.step 2 || Nat.beq run.first run.last) && Nat.beq other.step 2 &&
      Nat.beq ((run.target + other.first) % 2) 1

theorem not_maps_of_avoids {other : CaseRun} (avoiding : run.avoids other = true)
    (maps : run.Maps code) : ¬ other.Maps (run.target + (code - run.first)) := by
  intro ⟨lower, upper, onStep⟩
  obtain ⟨first, last, fromStep⟩ := maps
  simp only [avoids, Bool.or_eq_true, Bool.and_eq_true, Nat.blt_eq, Nat.beq_eq] at avoiding
  simp only [imageRange] at avoiding
  obtain (below | above) | ⟨⟨sparse, otherStep⟩, parity⟩ := avoiding
  · omega
  · omega
  · rw [otherStep] at onStep
    obtain step | single := sparse
    · rw [step] at fromStep
      omega
    · omega

end CaseRun

theorem mem_of_expansion? {table : List (Nat × List Nat)} {code : Nat} {codes : List Nat}
    (found : expansion? table code = some codes) : (code, codes) ∈ table := by
  induction table with
  | nil => cases found
  | cons entry rest ih =>
      simp only [expansion?] at found
      split at found
      · cases found
      · split at found
        · rename_i equal
          cases found
          simp [equal]
        · exact List.mem_cons_of_mem entry (ih found)

/-- The characters that change case: those that become several, and runs of those that become one
other each. -/
structure CaseTable where
  expansions : List (Nat × List Nat)
  runs : List CaseRun

namespace CaseTable

variable {table : CaseTable} {code image : Nat} {c d : Char}

def mapChar (table : CaseTable) (c : Char) : Text :=
  match expansion? table.expansions c.toNat with
  | some codes => codes.map Char.ofNat
  | none =>
      match CaseRun.image? table.runs c.toNat with
      | some code => [Char.ofNat code]
      | none => [c]

def fixes (table : CaseTable) (code : Nat) : Bool :=
  (expansion? table.expansions code).isNone && (CaseRun.image? table.runs code).isNone

/-- What must hold of a code point that a table produces: it is a character, and one that the table
fixes. -/
def isSettled (table : CaseTable) (code : Nat) : Bool :=
  decide code.isValidChar && table.fixes code

/-- The same for all images of a run at once. -/
def settlesRun (table : CaseTable) (run : CaseRun) : Bool :=
  (run.imageRange.2 < 0xD800 || 0xDFFF < run.imageRange.1 && run.imageRange.2 < 0x110000) &&
    table.runs.all run.avoids &&
    table.expansions.all fun entry =>
      Nat.blt entry.1 run.imageRange.1 || Nat.blt run.imageRange.2 entry.1

def settles (table : CaseTable) : Bool :=
  table.expansions.all (fun entry => entry.2.all table.isSettled) &&
    table.runs.all table.settlesRun

theorem mapChar_of_fixes (fixed : table.fixes c.toNat = true) : table.mapChar c = [c] := by
  simp only [fixes, Bool.and_eq_true, Option.isNone_iff_eq_none] at fixed
  simp only [mapChar, fixed.1, fixed.2]

theorem toNat_ofNat_of_isSettled (settled : table.isSettled code = true) :
    (Char.ofNat code).toNat = code := by
  simp only [isSettled, Bool.and_eq_true, decide_eq_true_eq] at settled
  rw [Char.ofNat, dif_pos settled.1]
  rfl

theorem mapChar_of_isSettled (settled : table.isSettled c.toNat = true) :
    table.mapChar c = [c] := by
  simp only [isSettled, Bool.and_eq_true] at settled
  exact mapChar_of_fixes settled.2

theorem isSettled_of_settlesRun {run : CaseRun} (settles : table.settlesRun run = true)
    (maps : run.Maps code) : table.isSettled (run.target + (code - run.first)) = true := by
  simp only [settlesRun, Bool.and_eq_true] at settles
  obtain ⟨⟨valid, avoiding⟩, noKey⟩ := settles
  have within := maps.within_imageRange
  have isChar : (run.target + (code - run.first)).isValidChar := by
    simp only [Bool.or_eq_true, Bool.and_eq_true, decide_eq_true_eq] at valid
    unfold Nat.isValidChar
    omega
  have unexpanded : expansion? table.expansions (run.target + (code - run.first)) = none := by
    cases found : expansion? table.expansions (run.target + (code - run.first)) with
    | none => rfl
    | some codes =>
        have apart := List.all_eq_true.mp noKey _ (mem_of_expansion? found)
        simp only [Bool.or_eq_true, Nat.blt_eq] at apart
        omega
  have unmapped : CaseRun.image? table.runs (run.target + (code - run.first)) = none := by
    cases found : CaseRun.image? table.runs (run.target + (code - run.first)) with
    | none => rfl
    | some image =>
        obtain ⟨other, member, otherMaps, _⟩ := CaseRun.exists_run_of_image? found
        exact absurd otherMaps
          (CaseRun.not_maps_of_avoids (List.all_eq_true.mp avoiding other member) maps)
  simp [isSettled, fixes, isChar, unexpanded, unmapped]

theorem isSettled_of_image? (settles : table.settles = true)
    (found : CaseRun.image? table.runs code = some image) : table.isSettled image = true := by
  simp only [CaseTable.settles, Bool.and_eq_true] at settles
  obtain ⟨run, member, maps, rfl⟩ := CaseRun.exists_run_of_image? found
  exact isSettled_of_settlesRun (List.all_eq_true.mp settles.2 run member) maps

theorem isSettled_of_expansion? (settles : table.settles = true) {codes : List Nat}
    (found : expansion? table.expansions code = some codes) (member : image ∈ codes) :
    table.isSettled image = true := by
  simp only [CaseTable.settles, Bool.and_eq_true] at settles
  have entrySettled := List.all_eq_true.mp settles.1 _ (mem_of_expansion? found)
  exact List.all_eq_true.mp entrySettled image member

/-- Where a character of a mapped one comes from. -/
theorem mem_mapChar_cases (settles : table.settles = true) (member : d ∈ table.mapChar c) :
    (∃ codes, expansion? table.expansions c.toNat = some codes ∧ d.toNat ∈ codes) ∨
      CaseRun.image? table.runs c.toNat = some d.toNat ∨ d = c ∧ table.mapChar c = [c] := by
  unfold mapChar at member ⊢
  split at member
  · rename_i codes found
    obtain ⟨code, inCodes, rfl⟩ := List.mem_map.mp member
    rw [toNat_ofNat_of_isSettled (isSettled_of_expansion? settles found inCodes)]
    exact .inl ⟨codes, found, inCodes⟩
  · split at member
    · rename_i code found
      obtain rfl := List.mem_singleton.mp member
      rw [toNat_ofNat_of_isSettled (isSettled_of_image? settles found)]
      exact .inr (.inl found)
    · obtain rfl := List.mem_singleton.mp member
      exact .inr (.inr ⟨rfl, rfl⟩)

theorem mapChar_of_mem_mapChar (settles : table.settles = true) (member : d ∈ table.mapChar c) :
    table.mapChar d = [d] := by
  obtain ⟨codes, found, inCodes⟩ | found | ⟨rfl, fixed⟩ := mem_mapChar_cases settles member
  · exact mapChar_of_isSettled (isSettled_of_expansion? settles found inCodes)
  · exact mapChar_of_isSettled (isSettled_of_image? settles found)
  · exact fixed

end CaseTable

end NameFraming
