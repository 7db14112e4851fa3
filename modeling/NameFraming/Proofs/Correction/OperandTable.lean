import NameFraming.Proofs.Correction.Corrected

/-! A table of operator phrases, read off the tokens that the rule was given. Phrases may share
words and operands, and each of them is looked for in the list that those before have changed; still
a token is framed and counted once, exactly when it is an operand of the list as it was. -/

namespace NameFraming

theorem FramesExactly.unique {marked : Nat → Prop} {tokens after other : List Token}
    (framing : FramesExactly marked tokens after)
    (alsoFraming : FramesExactly marked tokens other) : after = other := by
  apply List.ext_getElem?
  intro index
  by_cases mark : marked index
  · rw [framing.frames index mark, alsoFraming.frames index mark]
  · rw [framing.keeps index mark, alsoFraming.keeps index mark]

/-- Every token that gets framed brings one pair of delimiters. -/
theorem FramesExactly.conserves {marked : Nat → Prop} [DecidablePred marked]
    {tokens after : List Token} (framing : FramesExactly marked tokens after) :
    Conserves ((List.range tokens.length).countP (marked ·)) (render tokens) (render after) := by
  refine (conserves_render framing.samePlain.length ?_).cast (Int.one_mul _)
  intro index old new oldFound newFound
  by_cases mark : marked index
  · rw [framing.frames index mark, oldFound] at newFound
    cases newFound
    rw [if_pos mark]
    exact .frameWord old.text
  · rw [framing.keeps index mark, oldFound] at newFound
    cases newFound
    rw [if_neg mark]
    exact .refl _

namespace OperandEntry

variable {entry : OperandEntry} {tokens : List Token} {index : Nat}

theorem isOperandAt_iff :
    entry.IsOperandAt tokens index ↔
      2 * entry.phrase.length ≤ index ∧
        entry.phrase.standsAt tokens (index - 2 * entry.phrase.length) = true ∧
        entry.operandAt tokens index = true := by
  rw [operandAt_iff]
  constructor
  · intro ⟨⟨start, same, stands⟩, positive, gap, operand, ends⟩
    obtain rfl : index - 2 * entry.phrase.length = start := by omega
    exact ⟨by omega, stands, positive, gap, operand, ends⟩
  · intro ⟨enough, stands, positive, gap, operand, ends⟩
    exact ⟨⟨_, (Nat.sub_add_cancel enough).symm, stands⟩, positive, gap, operand, ends⟩

instance : Decidable (entry.IsOperandAt tokens index) :=
  decidable_of_iff _ isOperandAt_iff.symm

end OperandEntry

namespace KeywordOperand

instance (rule : KeywordOperand) (tokens : List Token) : DecidablePred (rule.IsOperandAt tokens) :=
  fun index => inferInstanceAs (Decidable (∃ entry ∈ rule.entries, entry.IsOperandAt tokens index))

theorem count_rewrite_eq_countP (rule : KeywordOperand) (tokens : List Token) :
    (rule.rewrite tokens).2 = (List.range tokens.length).countP (rule.IsOperandAt tokens ·) := by
  -- A word cannot be framed twice: the delimiters that the text gained tell how many were.
  have counted := (rule.conserves_rewrite tokens).count
  have framed := (rule.framesExactly_rewrite tokens).conserves.count
  omega

theorem isOperandAt_congr {rule other : KeywordOperand} (same : rule.entries.Perm other.entries)
    (tokens : List Token) : rule.IsOperandAt tokens = other.IsOperandAt tokens := by
  funext index
  simp only [IsOperandAt, same.mem_iff]

theorem rewrite_perm {rule other : KeywordOperand} (same : rule.entries.Perm other.entries)
    (tokens : List Token) : rule.rewrite tokens = other.rewrite tokens := by
  have operands := isOperandAt_congr same tokens
  have framing := rule.framesExactly_rewrite tokens
  rw [operands] at framing
  refine Prod.ext (framing.unique (other.framesExactly_rewrite tokens)) ?_
  rw [count_rewrite_eq_countP, count_rewrite_eq_countP]
  simp only [operands]

/-- A phrase stands where its words stand at every second index, with white space between them. The
rule frames the operands of the list that it was given, each once and whatever the order of its
phrases, and nothing else. -/
theorem rewrite_frames_operands :
    (∀ (phrase : Phrase) (tokens : List Token) (start : Nat),
      phrase.standsAt tokens start = true ↔
        (∀ n word, phrase[n]? = some word → ∃ token, tokens[start + 2 * n]? = some token ∧
          token.kind = .word ∧ upper token.text = word) ∧
        ∀ n, 0 < n → n < phrase.length →
          ∃ gap, tokens[start + 2 * n - 1]? = some gap ∧ gap.isBlank = true) ∧
    ∀ (rule : KeywordOperand) (tokens : List Token),
      FramesExactly (rule.IsOperandAt tokens) tokens (rule.rewrite tokens).1 ∧
        (rule.rewrite tokens).2 = (List.range tokens.length).countP (rule.IsOperandAt tokens ·) ∧
        ∀ other : KeywordOperand, rule.entries.Perm other.entries →
          other.rewrite tokens = rule.rewrite tokens := by
  refine ⟨fun phrase tokens start => ?_, fun rule tokens => ⟨?_, ?_, fun other same => ?_⟩⟩
  · rw [Phrase.standsAt_iff]
    constructor
    · intro all
      refine ⟨fun n word found => ?_, fun n positive inside => ?_⟩
      · obtain ⟨token, present, reads⟩ := (all n word found).1
        exact ⟨token, present, Token.isWord_iff.mp reads⟩
      · exact (all n _ (List.getElem?_eq_getElem inside)).2 positive
    · intro ⟨words, gaps⟩ n word found
      obtain ⟨token, present, reads⟩ := words n word found
      exact ⟨⟨token, present, Token.isWord_iff.mpr reads⟩,
        fun positive => gaps n positive (List.getElem?_eq_some_iff.mp found).1⟩
  · exact rule.framesExactly_rewrite tokens
  · exact rule.count_rewrite_eq_countP tokens
  · exact (rewrite_perm same tokens).symm

/-- Two phrases end in the same word and share its operand, and the empty phrase stands before every
token: three entries want to frame one word, and one of them does. -/
theorem rewrite_frames_operands_shared :
    let entry (phrase : List String) (operand : String) : OperandEntry :=
      ⟨phrase.map String.toList, [operand.toList]⟩
    let rule : KeywordOperand :=
      ⟨[entry ["TOGETHER"] "ANOTHER", entry [] "ANOTHER", entry ["PUT", "TOGETHER"] "ANOTHER"]⟩
    let turned : KeywordOperand := ⟨rule.entries.reverse⟩
    let tokens := tokenize commentMarker "X PUT TOGETHER ANOTHER.".toList
    rule.entries.Perm turned.entries ∧
      (∀ entry ∈ rule.entries, entry.IsOperandAt tokens 6) ∧
      (rule.rewrite tokens).1[6]? = some ⟨.delimited, "|ANOTHER|".toList⟩ ∧
      (rule.rewrite tokens).2 = 1 ∧ turned.rewrite tokens = rule.rewrite tokens := by
  intro entry rule turned tokens
  have same : rule.entries.Perm turned.entries := (List.reverse_perm _).symm
  have operands : ∀ entry ∈ rule.entries, entry.IsOperandAt tokens 6 := by decide +kernel
  obtain ⟨framing, count, anyOrder⟩ := rewrite_frames_operands.2 rule tokens
  refine ⟨same, operands, ?_, ?_, anyOrder turned same⟩
  · rw [framing.frames 6 ⟨_, List.mem_cons_self, operands _ List.mem_cons_self⟩]
    decide +kernel
  · rw [count]
    decide +kernel

end KeywordOperand

end NameFraming
