import NameFraming.Correction.AssignmentTarget
import NameFraming.Proofs.Token.Framing

/-! The target of an assignment, by its index: the rule frames exactly the word there. -/

namespace NameFraming

namespace AssignmentTarget

variable {rule : AssignmentTarget} {tokens : List Token}

/-- The first token of a line that is not indentation, when the marker of an assignment follows it.
-/
structure TargetAt (rule : AssignmentTarget) (tokens : List Token) (index : Nat) : Prop where
  first : BlankAt tokens 0 ∧ index = 1 ∨ ¬ BlankAt tokens 0 ∧ index = 0
  name : NameAt tokens index
  gap : BlankAt tokens (index + 1)
  marker : rule.marker.standsAt tokens (index + 2) = true

theorem TargetAt.lt_two {index : Nat} (target : rule.TargetAt tokens index) : index < 2 := by
  obtain ⟨_, rfl⟩ | ⟨_, rfl⟩ := target.first <;> omega

theorem TargetAt.of_framesExactly {marked : Nat → Prop} {after : List Token} {index : Nat}
    (target : rule.TargetAt after index) (framing : FramesExactly marked tokens after) :
    rule.TargetAt tokens index ∧ ¬ marked index := by
  have sameBlank : ∀ {index : Nat}, BlankAt after index ↔ BlankAt tokens index :=
    framing.samePlain.blankAt_iff
  obtain ⟨name, unmarked⟩ := framing.nameAt_iff.mp target.name
  have first := target.first
  rw [sameBlank] at first
  refine ⟨⟨first, name, sameBlank.mp target.gap, ?_⟩, unmarked⟩
  exact framing.standsAt target.marker

/-- The shape that the rule looks for at the front of a list. -/
def Opens (rule : AssignmentTarget) (tokens : List Token) : Prop :=
  NameAt tokens 0 ∧ BlankAt tokens 1 ∧ rule.marker.standsAt tokens 2 = true

theorem rewriteTarget_of_opens (opens : rule.Opens tokens) :
    (rule.rewriteTarget tokens).1 = tokens.modify 0 Token.framed := by
  obtain ⟨name, gap, marker⟩ := opens
  match tokens with
  | [] => simp [NameAt] at name
  | [target] => simp [BlankAt] at gap
  | target :: blank :: rest =>
      obtain ⟨isWord, bare⟩ := nameAt_cons.mp name
      have isBlank := blankAt_cons.mp (blankAt_cons_succ.mp gap)
      have begins : rule.marker.begins rest = true := marker
      simp [rewriteTarget, isWord, bare, isBlank, begins]

theorem rewriteTarget_of_not_opens (closed : ¬ rule.Opens tokens) :
    rule.rewriteTarget tokens = (tokens, 0) := by
  match tokens with
  | [] => rfl
  | [target] => rfl
  | target :: blank :: rest =>
      rw [rewriteTarget, if_neg]
      intro shape
      simp only [Bool.and_eq_true, beq_iff_eq] at shape
      obtain ⟨⟨⟨isWord, bare⟩, isBlank⟩, begins⟩ := shape
      exact closed ⟨nameAt_cons.mpr ⟨isWord, bare⟩,
        blankAt_cons_succ.mpr (blankAt_cons.mpr isBlank), begins⟩

theorem framesExactly_rewriteTarget (rule : AssignmentTarget) (tokens : List Token) :
    FramesExactly (fun index => index = 0 ∧ rule.Opens tokens) tokens
      (rule.rewriteTarget tokens).1 := by
  by_cases opens : rule.Opens tokens
  · rw [rewriteTarget_of_opens opens]
    exact (FramesExactly.modify opens.1).congr fun index =>
      ⟨fun same => ⟨same, opens⟩, And.left⟩
  · rw [rewriteTarget_of_not_opens opens]
    exact .refl fun index ⟨_, isOpen⟩ => opens isOpen

theorem framesExactly_rewrite (rule : AssignmentTarget) (tokens : List Token) :
    FramesExactly (rule.TargetAt tokens) tokens (rule.rewrite tokens).1 := by
  cases tokens with
  | nil =>
      refine .refl fun index target => ?_
      obtain ⟨token, found, _⟩ := target.name
      simp at found
  | cons first rest =>
      rw [rewrite]
      by_cases indented : first.isBlank = true
      · -- Behind the indentation the list is one token shorter.
        rw [if_pos indented]
        have blank : BlankAt (first :: rest) 0 := blankAt_cons.mpr indented
        have inner := framesExactly_rewriteTarget rule rest
        have shifted : ∀ index, rule.TargetAt (first :: rest) (index + 1) ↔
            index = 0 ∧ rule.Opens rest := by
          intro index
          constructor
          · intro target
            obtain ⟨_, one⟩ | ⟨notBlank, _⟩ := target.first
            · obtain rfl : index = 0 := by omega
              exact ⟨rfl, nameAt_cons_succ.mp target.name, blankAt_cons_succ.mp target.gap,
                target.marker⟩
            · exact absurd blank notBlank
          · intro ⟨same, name, gap, marker⟩
            subst same
            exact ⟨.inl ⟨blank, rfl⟩, nameAt_cons_succ.mpr name, blankAt_cons_succ.mpr gap, marker⟩
        have notFirst : ¬ rule.TargetAt (first :: rest) 0 := by
          intro target
          obtain ⟨_, one⟩ | ⟨notBlank, _⟩ := target.first
          · cases one
          · exact notBlank blank
        refine ⟨?_, ?_, fun index target => target.name⟩
        · intro index target
          cases index with
          | zero => exact absurd target notFirst
          | succ index => exact inner.frames index ((shifted index).mp target)
        · intro index noTarget
          cases index with
          | zero => rfl
          | succ index =>
              exact inner.keeps index fun opens => noTarget ((shifted index).mpr opens)
      · rw [if_neg indented]
        have notBlank : ¬ BlankAt (first :: rest) 0 := fun blank => indented (blankAt_cons.mp blank)
        refine (framesExactly_rewriteTarget rule _).congr fun index => ⟨?_, ?_⟩
        · intro ⟨same, name, gap, marker⟩
          subst same
          exact ⟨.inr ⟨notBlank, rfl⟩, name, gap, marker⟩
        · intro target
          obtain ⟨blank, _⟩ | ⟨_, rfl⟩ := target.first
          · exact absurd blank notBlank
          · exact ⟨rfl, target.name, target.gap, target.marker⟩

theorem rewrite_of_count_eq_zero (none : (rule.rewrite tokens).2 = 0) :
    (rule.rewrite tokens).1 = tokens := by
  have ofTarget : ∀ tokens, (rule.rewriteTarget tokens).2 = 0 →
      (rule.rewriteTarget tokens).1 = tokens := by
    intro tokens none
    unfold rewriteTarget at none ⊢
    split at none
    · split at none
      · cases none
      · rename_i shape
        simp [shape]
    · rfl
  cases tokens with
  | nil => rfl
  | cons first rest =>
      rw [rewrite] at none ⊢
      split at none
      · rename_i indented
        rw [if_pos indented, ofTarget rest none]
      · rename_i notIndented
        rw [if_neg notIndented, ofTarget _ none]

end AssignmentTarget

end NameFraming
