import NameFraming.Correction.KeywordOperand
import NameFraming.Proofs.Token.Framing

/-! Operands, by their indices. The rule changes the list that it is looking through, phrase by
phrase and start by start; all the same it frames exactly the operands of the list that it was
given, since an operand ends its statement and so is no word of another phrase. -/

namespace NameFraming

/-- A statement ends before an index: there is no token, or a period, or the last white space. -/
def StatementEndsAt (tokens : List Token) (index : Nat) : Prop :=
  tokens[index]? = none ∨
    ∃ token, tokens[index]? = some token ∧ token.kind = .other ∧
      (token.text.head? = some '.' ∨ token.text.all isBlank = true ∧ tokens.length = index + 1)

theorem endsStatement_drop_iff {tokens : List Token} {index : Nat} :
    KeywordOperand.endsStatement (tokens.drop index) = true ↔ StatementEndsAt tokens index := by
  have whole := List.length_drop (i := index) (l := tokens)
  have first : (tokens.drop index)[0]? = tokens[index]? := by simp
  unfold StatementEndsAt
  rw [← first]
  cases rest : tokens.drop index with
  | nil => simp [KeywordOperand.endsStatement]
  | cons next later =>
      rw [rest, List.length_cons] at whole
      have last : later.isEmpty = true ↔ tokens.length = index + 1 := by
        rw [List.isEmpty_iff, ← List.length_eq_zero_iff]
        omega
      simp [KeywordOperand.endsStatement, last]

theorem SamePlain.statementEndsAt_iff {tokens after : List Token} (same : SamePlain tokens after)
    {index : Nat} : StatementEndsAt after index ↔ StatementEndsAt tokens index := by
  unfold StatementEndsAt
  rw [same.getElem?_eq_none_iff, same.length]
  refine or_congr_right (exists_congr fun token => ?_)
  constructor
  · intro ⟨found, other, ends⟩
    exact ⟨(same.plain index token other).mp found, other, ends⟩
  · intro ⟨found, other, ends⟩
    exact ⟨(same.plain index token other).mpr found, other, ends⟩

theorem StatementEndsAt.not_isRun {tokens : List Token} {index : Nat}
    (ends : StatementEndsAt tokens index) (next : Token) (found : tokens[index]? = some next) :
    next.isRun = false := by
  rcases ends with absent | ⟨token, sameFound, other, _⟩
  · rw [found] at absent
    cases absent
  · cases found.symm.trans sameFound
    simp [Token.isRun, other]

theorem not_statementEndsAt_of_blankAt {tokens : List Token} {index : Nat}
    (blank : BlankAt tokens index) (more : index + 1 < tokens.length) :
    ¬ StatementEndsAt tokens index := by
  obtain ⟨gap, found, isBlank⟩ := blank
  obtain ⟨_, nonempty, allBlank⟩ := Token.isBlank_iff.mp isBlank
  intro ends
  rcases ends with absent | ⟨token, sameFound, _, period | ⟨_, last⟩⟩
  · rw [found] at absent
    cases absent
  · cases found.symm.trans sameFound
    have notBlank : NameFraming.isBlank '.' = false := by decide
    have member : '.' ∈ gap.text := List.mem_of_mem_head? period
    rw [List.all_eq_true.mp allBlank '.' member] at notBlank
    cases notBlank
  · omega

namespace OperandEntry

variable {entry : OperandEntry} {tokens : List Token} {start index : Nat}

/-- The token at an index is the operand of a phrase that stands directly before it. -/
structure IsOperandAt (entry : OperandEntry) (tokens : List Token) (index : Nat) : Prop where
  phrase : ∃ start, index = start + 2 * entry.phrase.length ∧
    entry.phrase.standsAt tokens start = true
  positive : 0 < index
  gap : BlankAt tokens (index - 1)
  operand : ∃ token, tokens[index]? = some token ∧ token.kind = .word ∧
    upper token.text ∈ entry.operands ∧ isBareName token.text = true
  ends : StatementEndsAt tokens (index + 1)

theorem IsOperandAt.name (operand : entry.IsOperandAt tokens index) : NameAt tokens index := by
  obtain ⟨token, found, isWord, _, bare⟩ := operand.operand
  exact ⟨token, found, isWord, bare⟩

theorem operandAt_iff :
    entry.operandAt tokens index = true ↔
      0 < index ∧ BlankAt tokens (index - 1) ∧
        (∃ token, tokens[index]? = some token ∧ token.kind = .word ∧
          upper token.text ∈ entry.operands ∧ isBareName token.text = true) ∧
        StatementEndsAt tokens (index + 1) := by
  rw [← endsStatement_drop_iff]
  cases index with
  | zero => unfold operandAt; split <;> simp
  | succ before =>
      have gapAt : tokens[before]? = (tokens.drop before)[0]? := by simp
      have operandAt : tokens[before + 1]? = (tokens.drop before)[1]? := by simp
      have restAt : tokens.drop (before + 1 + 1) = (tokens.drop before).drop 2 := by simp
      rw [OperandEntry.operandAt, Nat.add_sub_cancel, restAt, operandAt]
      unfold BlankAt
      rw [gapAt]
      match tokens.drop before with
      | [] => simp
      | [gap] => simp
      | gap :: operand :: rest => simp [and_assoc]

theorem fires_iff :
    (entry.phrase.standsAt tokens start &&
        entry.operandAt tokens (start + 2 * entry.phrase.length)) = true ↔
      entry.IsOperandAt tokens (start + 2 * entry.phrase.length) := by
  rw [Bool.and_eq_true, operandAt_iff]
  constructor
  · intro ⟨stands, positive, gap, operand, ends⟩
    exact ⟨⟨start, rfl, stands⟩, positive, gap, operand, ends⟩
  · intro ⟨⟨other, same, stands⟩, positive, gap, operand, ends⟩
    obtain rfl : start = other := by omega
    exact ⟨stands, positive, gap, operand, ends⟩

end OperandEntry

namespace KeywordOperand

variable {rule : KeywordOperand} {tokens current : List Token} {marked : Nat → Prop} {index : Nat}

def IsOperandAt (rule : KeywordOperand) (tokens : List Token) (index : Nat) : Prop :=
  ∃ entry ∈ rule.entries, entry.IsOperandAt tokens index

/-- A word of a phrase is no operand, since the statement goes on behind it. -/
theorem not_isOperandAt_of_continues (blank : BlankAt tokens (index + 1))
    (more : index + 2 < tokens.length) : ¬ rule.IsOperandAt tokens index := by
  intro ⟨entry, _, operand⟩
  exact not_statementEndsAt_of_blankAt blank more operand.ends

/-- Framing some operands neither makes nor breaks another one. -/
theorem isOperandAt_iff_of_framesExactly (framing : FramesExactly marked tokens current)
    (operands : ∀ index, marked index → rule.IsOperandAt tokens index) (entry : OperandEntry)
    (index : Nat) :
    entry.IsOperandAt current index ↔ entry.IsOperandAt tokens index ∧ ¬ marked index := by
  constructor
  · intro ⟨⟨start, same, stands⟩, positive, gap, ⟨token, found, isWord, member, bare⟩, ends⟩
    obtain ⟨before, unmarked⟩ := framing.getElem?_of_kind found (by simp [isWord])
    exact ⟨⟨⟨start, same, framing.standsAt stands⟩, positive, framing.samePlain.blankAt_iff.mp gap,
      ⟨token, before, isWord, member, bare⟩, framing.samePlain.statementEndsAt_iff.mp ends⟩,
      unmarked⟩
  · intro ⟨operand, unmarked⟩
    obtain ⟨⟨start, same, stands⟩, positive, gap, ⟨token, found, isWord, member, bare⟩, ends⟩ :=
      operand
    have bound : index < tokens.length := (List.getElem?_eq_some_iff.mp found).1
    refine ⟨⟨start, same, ?_⟩, positive, framing.samePlain.blankAt_iff.mpr gap,
      ⟨token, by rw [framing.keeps index unmarked]; exact found, isWord, member, bare⟩,
      framing.samePlain.statementEndsAt_iff.mpr ends⟩
    rw [Phrase.standsAt_iff] at stands ⊢
    intro n word inPhrase
    obtain ⟨reads, blank⟩ := stands n word inPhrase
    have inside : n < entry.phrase.length := (List.getElem?_eq_some_iff.mp inPhrase).1
    have continues : BlankAt tokens (start + 2 * n + 1) := by
      -- The separator behind a word is one of the phrase, or the gap before the operand.
      by_cases final : n + 1 < entry.phrase.length
      · obtain ⟨_, separator⟩ := stands (n + 1) _ (List.getElem?_eq_getElem final)
        have moved : start + 2 * (n + 1) - 1 = start + 2 * n + 1 := by omega
        exact moved ▸ separator (by omega)
      · have moved : index - 1 = start + 2 * n + 1 := by omega
        exact moved ▸ gap
    have notOperand : ¬ rule.IsOperandAt tokens (start + 2 * n) :=
      not_isOperandAt_of_continues continues (by omega)
    exact ⟨framing.wordAt_iff.mpr ⟨reads, fun mark => notOperand (operands _ mark)⟩,
      fun later => framing.samePlain.blankAt_iff.mpr (blank later)⟩

/-- One start: the operand behind the phrase gets framed, if it is one and is not framed yet. -/
theorem framesExactly_rewriteAt (framing : FramesExactly marked tokens current)
    (operands : ∀ index, marked index → rule.IsOperandAt tokens index) (entry : OperandEntry)
    (start : Nat) :
    FramesExactly (fun index => marked index ∨ index = start + 2 * entry.phrase.length ∧
      entry.IsOperandAt tokens index) tokens (entry.rewriteAt start current).1 := by
  have stable := isOperandAt_iff_of_framesExactly framing operands entry
    (start + 2 * entry.phrase.length)
  unfold OperandEntry.rewriteAt
  by_cases fires : entry.IsOperandAt current (start + 2 * entry.phrase.length)
  · rw [if_pos (OperandEntry.fires_iff.mpr fires)]
    obtain ⟨operand, unmarked⟩ := stable.mp fires
    have step := (FramesExactly.modify fires.name).congr fun index =>
      (⟨fun same => ⟨same, same ▸ operand⟩, And.left⟩ :
        index = start + 2 * entry.phrase.length ↔ _ ∧ entry.IsOperandAt tokens index)
    exact framing.trans step
  · rw [if_neg fun both => fires (OperandEntry.fires_iff.mp both)]
    refine framing.congr fun index => ⟨.inl, ?_⟩
    intro either
    rcases either with mark | ⟨rfl, operand⟩
    · exact mark
    · by_contra unmarked
      exact fires (stable.mpr ⟨operand, unmarked⟩)

/-- A sweep of steps that each frame their own operands frames all of them. -/
theorem framesExactly_sweep {α : Type} {step : α → List Token → List Token × Nat}
    {frames : α → Nat → Prop} {items : List α}
    (operands : ∀ item ∈ items, ∀ index, frames item index → rule.IsOperandAt tokens index)
    (stepFrames : ∀ item ∈ items, ∀ {current marked}, FramesExactly marked tokens current →
      (∀ index, marked index → rule.IsOperandAt tokens index) →
      FramesExactly (fun index => marked index ∨ frames item index) tokens (step item current).1)
    (framing : FramesExactly marked tokens current)
    (before : ∀ index, marked index → rule.IsOperandAt tokens index) :
    FramesExactly (fun index => marked index ∨ ∃ item ∈ items, frames item index) tokens
      (sweep step items current).1 := by
  induction items generalizing current marked with
  | nil => exact framing.congr fun index => by simp
  | cons item rest ih =>
      have next := stepFrames item (by simp) framing before
      have nextBefore : ∀ index, marked index ∨ frames item index →
          rule.IsOperandAt tokens index := by
        intro index either
        rcases either with mark | frame
        · exact before index mark
        · exact operands item (by simp) index frame
      have later := ih (fun other member => operands other (by simp [member]))
        (fun other member => stepFrames other (by simp [member])) next nextBefore
      exact later.congr fun index => by simp [or_assoc]

theorem framesExactly_rewrite (rule : KeywordOperand) (tokens : List Token) :
    FramesExactly (rule.IsOperandAt tokens) tokens (rule.rewrite tokens).1 := by
  have none : FramesExactly (fun _ => False) tokens tokens := .refl fun _ => id
  have ofEntry : ∀ entry ∈ rule.entries, ∀ {current marked}, FramesExactly marked tokens current →
      (∀ index, marked index → rule.IsOperandAt tokens index) →
      FramesExactly (fun index => marked index ∨ entry.IsOperandAt tokens index) tokens
        (entry.rewrite current).1 := by
    intro entry member current marked framing before
    have swept : FramesExactly (fun index => marked index ∨
        ∃ start ∈ List.range current.length, index = start + 2 * entry.phrase.length ∧
          entry.IsOperandAt tokens index) tokens (entry.rewrite current).1 :=
      framesExactly_sweep (fun start _ index found => ⟨entry, member, found.2⟩)
      (fun start _ _ _ inner innerBefore =>
        framesExactly_rewriteAt inner innerBefore entry start) framing before
    refine swept.congr fun index => or_congr_right ⟨?_, ?_⟩
    · intro ⟨start, _, _, operand⟩
      exact operand
    · intro operand
      obtain ⟨start, same, _⟩ := operand.phrase
      obtain ⟨token, found, _⟩ := operand.operand
      have bound : index < tokens.length := (List.getElem?_eq_some_iff.mp found).1
      have length := framing.samePlain.length
      exact ⟨start, List.mem_range.mpr (by omega), same, operand⟩
  have swept : FramesExactly (fun index => False ∨
      ∃ entry ∈ rule.entries, entry.IsOperandAt tokens index) tokens (rule.rewrite tokens).1 :=
    framesExactly_sweep (fun entry member index operand => ⟨entry, member, operand⟩) ofEntry none
      fun _ => False.elim
  exact swept.congr fun index => by simp [IsOperandAt]

theorem sweep_of_count_eq_zero {α : Type} {step : α → List Token → List Token × Nat}
    (stepKeeps : ∀ item tokens, (step item tokens).2 = 0 → (step item tokens).1 = tokens)
    {items : List α} (none : (sweep step items tokens).2 = 0) :
    (sweep step items tokens).1 = tokens := by
  induction items generalizing tokens with
  | nil => rfl
  | cons item rest ih =>
      simp only [sweep, Nat.add_eq_zero_iff] at none ⊢
      rw [ih none.2, stepKeeps item tokens none.1]

theorem rewrite_of_count_eq_zero (none : (rule.rewrite tokens).2 = 0) :
    (rule.rewrite tokens).1 = tokens := by
  refine sweep_of_count_eq_zero (fun entry tokens noneOfEntry => ?_) none
  refine sweep_of_count_eq_zero (fun start tokens noneAt => ?_) noneOfEntry
  simp only [OperandEntry.rewriteAt] at noneAt ⊢
  split at noneAt
  · cases noneAt
  · rename_i unmatched
    rw [if_neg unmatched]

end KeywordOperand

end NameFraming
