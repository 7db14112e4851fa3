import NameFraming.Proofs.Framer.Passes

/-! Framing by its characters: delimiters come and go in pairs, everything else stays as it is, and
the counts that are reported are the numbers of these pairs. -/

namespace NameFraming

/-- How `after` lies to `text`: the number of pairs of delimiters that it has more, and besides them
the same characters in the same order. -/
structure Conserves (pairs : Int) (text after : Text) : Prop where
  rest : after.filter (· ≠ delimiter) = text.filter (· ≠ delimiter)
  count : (after.count delimiter : Int) = text.count delimiter + 2 * pairs

namespace Conserves

variable {pairs more : Int} {text middle after : Text}

theorem refl (text : Text) : Conserves 0 text text :=
  ⟨rfl, by simp⟩

theorem symm (conserves : Conserves pairs text after) : Conserves (-pairs) after text := by
  have count := conserves.count
  exact ⟨conserves.rest.symm, by omega⟩

theorem trans (first : Conserves pairs text middle) (second : Conserves more middle after) :
    Conserves (pairs + more) text after := by
  have firstCount := first.count
  have secondCount := second.count
  exact ⟨second.rest.trans first.rest, by omega⟩

theorem append {later laterAfter : Text} (first : Conserves pairs text after)
    (second : Conserves more later laterAfter) :
    Conserves (pairs + more) (text ++ later) (after ++ laterAfter) := by
  have firstCount := first.count
  have secondCount := second.count
  refine ⟨by simp only [List.filter_append, first.rest, second.rest], ?_⟩
  simp only [List.count_append]
  omega

theorem cast (conserves : Conserves pairs text after) (same : pairs = more) :
    Conserves more text after :=
  same ▸ conserves

theorem frameWord (word : Text) : Conserves 1 word (frameWord word) := by
  constructor
  · simp [NameFraming.frameWord]
  · simp only [NameFraming.frameWord, List.count_cons_self, List.count_append, List.count_nil]
    omega

end Conserves

section Tokens

variable {tokens : List Token}

theorem conserves_modify_framed {index : Nat} (bound : index < tokens.length) :
    Conserves 1 (render tokens) (render (tokens.modify index Token.framed)) := by
  induction tokens generalizing index with
  | nil => simp at bound
  | cons first rest ih =>
      cases index with
      | zero => exact (Conserves.frameWord first.text).append (.refl (render rest))
      | succ index =>
          have later := ih (Nat.lt_of_succ_lt_succ bound)
          exact ((Conserves.refl first.text).append later).cast (by omega)

theorem AssignmentTarget.conserves_rewriteTarget (rule : AssignmentTarget) (tokens : List Token) :
    Conserves (rule.rewriteTarget tokens).2 (render tokens)
      (render (rule.rewriteTarget tokens).1) := by
  unfold rewriteTarget
  split
  · rename_i target gap rest
    split
    · exact (Conserves.frameWord target.text).append (.refl (render (gap :: rest)))
    · exact .refl _
  · exact .refl _

theorem AssignmentTarget.conserves_rewrite (rule : AssignmentTarget) (tokens : List Token) :
    Conserves (rule.rewrite tokens).2 (render tokens) (render (rule.rewrite tokens).1) := by
  cases tokens with
  | nil => exact .refl _
  | cons first rest =>
      rw [rewrite]
      split
      · have later := rule.conserves_rewriteTarget rest
        exact ((Conserves.refl first.text).append later).cast (by omega)
      · exact rule.conserves_rewriteTarget (first :: rest)

theorem conserves_sweep {α : Type} {step : α → List Token → List Token × Nat}
    (stepConserves : ∀ item tokens,
      Conserves (step item tokens).2 (render tokens) (render (step item tokens).1))
    (items : List α) (tokens : List Token) :
    Conserves (sweep step items tokens).2 (render tokens) (render (sweep step items tokens).1) := by
  induction items generalizing tokens with
  | nil => exact .refl _
  | cons item rest ih =>
      have first := stepConserves item tokens
      exact (first.trans (ih (step item tokens).1)).cast (by simp [sweep])

theorem OperandEntry.conserves_rewriteAt (entry : OperandEntry) (start : Nat)
    (tokens : List Token) :
    Conserves (entry.rewriteAt start tokens).2 (render tokens)
      (render (entry.rewriteAt start tokens).1) := by
  simp only [rewriteAt]
  split
  · rename_i fires
    obtain ⟨token, found, _⟩ := (fires_iff.mp fires).operand
    exact conserves_modify_framed (List.getElem?_eq_some_iff.mp found).1
  · exact .refl _

theorem KeywordOperand.conserves_rewrite (rule : KeywordOperand) (tokens : List Token) :
    Conserves (rule.rewrite tokens).2 (render tokens) (render (rule.rewrite tokens).1) := by
  apply conserves_sweep
  intro entry tokens
  apply conserves_sweep
  exact entry.conserves_rewriteAt

theorem MaterialQuality.conserves_rewriteAfter (rule : MaterialQuality) (leading gap : Token)
    (wellFormed : ∀ token ∈ tokens, token.kind = .delimited → token.WellFormed) :
    Conserves (-(rule.rewriteAfter leading gap tokens).2) (render tokens)
      (render (rule.rewriteAfter leading gap tokens).1) := by
  induction tokens generalizing leading gap with
  | nil => exact .refl _
  | cons token rest ih =>
      have ofRest := fun later member => wellFormed later (List.mem_cons_of_mem token member)
      rw [rewriteAfter]
      split
      · rename_i strips
        obtain ⟨delimited, closed, _⟩ := strips_iff.mp strips
        have text : token.text = NameFraming.frameWord token.inner :=
          Token.text_eq_frameWord (wellFormed token List.mem_cons_self delimited) delimited closed
        have head : Conserves (-1) token.text token.inner := by
          rw [text]
          exact (Conserves.frameWord token.inner).symm
        exact (head.append (ih gap ⟨.word, token.inner⟩ ofRest)).cast (by dsimp only; omega)
      · exact ((Conserves.refl token.text).append (ih gap token ofRest)).cast (by simp)

theorem MaterialQuality.conserves_rewrite (rule : MaterialQuality)
    (wellFormed : ∀ token ∈ tokens, token.kind = .delimited → token.WellFormed) :
    Conserves (-(rule.rewrite tokens).2) (render tokens) (render (rule.rewrite tokens).1) := by
  unfold rewrite
  split
  · rename_i leading gap rest
    have ofRest := fun token member =>
      wellFormed token (List.mem_cons_of_mem leading (List.mem_cons_of_mem gap member))
    have later := rule.conserves_rewriteAfter leading gap ofRest
    have front := (Conserves.refl leading.text).append ((Conserves.refl gap.text).append later)
    exact front.cast (by simp)
  · exact .refl _

/-- A line that is passed through has no delimited token at all. -/
theorem wellFormed_of_delimited {line : Text} {token : Token}
    (member : token ∈ tokenize commentMarker line) (delimited : token.kind = .delimited) :
    token.WellFormed := by
  cases passed : isPassthrough commentMarker line with
  | false => exact (lineTokens_tokenize passed).wellFormed.each token member
  | true =>
      rcases tokenize_of_passthrough passed with none | one
      · simp [none] at member
      · rw [one, List.mem_singleton] at member
        subst member
        cases delimited

end Tokens

section Lines

variable {rewriteLine : Text → Text × Nat} {balance : Int}

theorem conserves_unlines
    (each : ∀ line, Conserves (balance * (rewriteLine line).2) line (rewriteLine line).1)
    (lines : List Text) :
    Conserves (balance * (((lines.map rewriteLine).map Prod.snd).foldr (· + ·) 0 : Nat))
      (Text.unlines lines) (Text.unlines ((lines.map rewriteLine).map Prod.fst)) := by
  match lines with
  | [] => exact (Conserves.refl _).cast (by simp)
  | [line] => exact ((each line).append (.refl [])).cast (by simp)
  | first :: second :: rest =>
      have later := conserves_unlines each (second :: rest)
      have whole := (each first).append ((Conserves.refl ['\n']).append later)
      simp only [List.map_cons, Text.unlines_cons_cons] at whole ⊢
      refine whole.cast ?_
      simp only [List.foldr_cons, Int.natCast_add, Int.mul_add, Int.zero_add]

theorem conserves_overLines
    (each : ∀ line, Conserves (balance * (rewriteLine line).2) line (rewriteLine line).1)
    (text : Text) :
    Conserves (balance * (overLines rewriteLine text).2) text (overLines rewriteLine text).1 := by
  have whole := conserves_unlines each text.lines
  rwa [Text.unlines_lines] at whole

theorem overLines_of_count_eq_zero
    (keeps : ∀ line, (rewriteLine line).2 = 0 → (rewriteLine line).1 = line) {text : Text}
    (none : (overLines rewriteLine text).2 = 0) : (overLines rewriteLine text).1 = text := by
  have ofLines : ∀ lines : List Text,
      ((lines.map rewriteLine).map Prod.snd).foldr (· + ·) 0 = 0 →
        (lines.map rewriteLine).map Prod.fst = lines := by
    intro lines
    induction lines with
    | nil => simp
    | cons line rest ih =>
        intro none
        simp only [List.map_cons, List.foldr_cons, Nat.add_eq_zero_iff] at none ⊢
        rw [keeps line none.1, ih none.2]
  exact (congrArg Text.unlines (ofLines text.lines none)).trans text.unlines_lines

end Lines

theorem Scanner.conserves_scan (scanner : Scanner) (text : Text) :
    Conserves (scanner.frame text).2 text (scanner.frame text).1 := by
  have ofTokens : ∀ tokens : List Token,
      Conserves (tokens.countP scanner.frames) (render tokens)
        (render (tokens.map scanner.frameToken)) := by
    intro tokens
    induction tokens with
    | nil => exact .refl _
    | cons token rest ih =>
        rw [List.map_cons, render_cons, render_cons, frameToken]
        split
        · rename_i frames
          rw [List.countP_cons_of_pos frames]
          exact ((Conserves.frameWord token.text).append ih).cast (by simp; omega)
        · rename_i keeps
          rw [List.countP_cons_of_neg keeps]
          exact ((Conserves.refl token.text).append ih).cast (by omega)
  have each : ∀ line, Conserves (1 * (scanner.scanLine line).2) line (scanner.scanLine line).1 := by
    intro line
    have ofLine := ofTokens (tokenize scanner.commentMarker line)
    rw [render_tokenize] at ofLine
    rw [scanner.scanLine_eq]
    exact ofLine.cast (by simp [frameTokens])
  exact (conserves_overLines each text).cast (by simp [frame])

namespace Rule

/-- The pairs of delimiters that a text has more after one correction. -/
def balance : Rule → Int
  | assignmentTarget _ => 1
  | keywordOperand _ => 1
  | materialQuality _ => -1

theorem conserves_rewrite (rule : Rule) {tokens : List Token}
    (wellFormed : ∀ token ∈ tokens, token.kind = .delimited → token.WellFormed) :
    Conserves (rule.balance * (rule.rewrite tokens).2) (render tokens)
      (render (rule.rewrite tokens).1) := by
  cases rule with
  | assignmentTarget rule => exact (rule.conserves_rewrite tokens).cast (by simp [balance, rewrite])
  | keywordOperand rule => exact (rule.conserves_rewrite tokens).cast (by simp [balance, rewrite])
  | materialQuality rule =>
      exact (rule.conserves_rewrite wellFormed).cast (by simp [balance, rewrite])

theorem conserves_correctLine (rule : Rule) (line : Text) :
    Conserves (rule.balance * (rule.correctLine line).2) line (rule.correctLine line).1 := by
  have ofLine := rule.conserves_rewrite fun token =>
    @wellFormed_of_delimited line token
  rw [render_tokenize] at ofLine
  rw [rule.correctLine_eq]
  exact ofLine

theorem conserves_apply (rule : Rule) (text : Text) :
    Conserves (rule.balance * (rule.apply text).2) text (rule.apply text).1 :=
  conserves_overLines rule.conserves_correctLine text

/-- The number of corrections tells whether there was one. -/
theorem apply_count_eq_zero_iff (rule : Rule) (text : Text) :
    (rule.apply text).2 = 0 ↔ (rule.apply text).1 = text := by
  constructor
  · refine overLines_of_count_eq_zero fun line none => ?_
    rw [rule.correctLine_eq] at none ⊢
    exact (congrArg render (rewrite_of_count_eq_zero none)).trans (render_tokenize _ _)
  · intro same
    have count := (rule.conserves_apply text).count
    rw [same] at count
    cases rule <;> simp only [balance] at count <;> omega

end Rule

section Pipeline

/-- The pairs that the corrections of a run have added. -/
def Counts.pairs (counts : Counts) : Int :=
  counts.of "assignment_target" + counts.of "keyword_operand" - counts.of "material_quality"

theorem Counts.of_applyRules_of_not_mem {name : String} {rules : List Rule}
    (absent : name ∉ rules.map Rule.name) (text : Text) :
    Counts.of (applyRules rules text).2 name = 0 := by
  induction rules generalizing text with
  | nil => rfl
  | cons rule rules ih =>
      simp only [List.map_cons, List.mem_cons, not_or] at absent
      have differs : (name == rule.name) = false := by simpa using absent.1
      have later := ih absent.2 (rule.apply text).1
      simpa [applyRules, Counts.of, List.lookup_cons, differs] using later

theorem Counts.pairs_cons {rule : Rule} {rules : List Rule}
    (distinct : rule.name ∉ rules.map Rule.name) (count : Nat) (text : Text) :
    Counts.pairs ((rule.name, count) :: (applyRules rules text).2) =
      rule.balance * count + Counts.pairs (applyRules rules text).2 := by
  have absent := Counts.of_applyRules_of_not_mem distinct text
  cases rule <;>
    simp [Rule.name, Counts.of] at absent <;>
    simp [Counts.pairs, Counts.of, Rule.name, Rule.balance, List.lookup_cons, absent] <;>
    omega

theorem conserves_applyRules {rules : List Rule} (distinct : (rules.map Rule.name).Nodup)
    (text : Text) :
    Conserves (Counts.pairs (applyRules rules text).2) text (applyRules rules text).1 := by
  induction rules generalizing text with
  | nil => exact .refl text
  | cons rule rules ih =>
      obtain ⟨absent, later⟩ := List.nodup_cons.mp distinct
      have first := rule.conserves_apply text
      have rest := ih later (rule.apply text).1
      exact (first.trans rest).cast (Counts.pairs_cons absent _ _).symm

/-- Rules may have any names here: only their counts can be mixed up. -/
theorem filter_applyRules (rules : List Rule) (text : Text) :
    (applyRules rules text).1.filter (· ≠ delimiter) = text.filter (· ≠ delimiter) := by
  induction rules generalizing text with
  | nil => rfl
  | cons rule rules ih => exact (ih (rule.apply text).1).trans (rule.conserves_apply text).rest

end Pipeline

namespace Framer

theorem filter_transform (framer : Framer) (text : Text) :
    (framer.transform text).filter (· ≠ delimiter) = text.filter (· ≠ delimiter) :=
  (filter_applyRules framer.rules _).trans (framer.scanner.conserves_scan text).rest

theorem mem_transform {framer : Framer} {text : Text} {c : Char}
    (member : c ∈ framer.transform text) : c = delimiter ∨ c ∈ text := by
  by_cases bar : c = delimiter
  · exact .inl bar
  · have kept : c ∈ (framer.transform text).filter (· ≠ delimiter) :=
      List.mem_filter.mpr ⟨member, by simpa using bar⟩
    rw [framer.filter_transform] at kept
    exact .inr (List.mem_of_mem_filter kept)

/-- The reported counts are exactly what happened to the delimiters, for any vocabulary and any
rules, and nothing happened to anything else. -/
theorem conserves_frame (framer : Framer) (distinct : (framer.rules.map Rule.name).Nodup)
    (text : Text) :
    Conserves ((framer.frame text).identifiersFramed +
        (framer.frame text).corrections.of "assignment_target" +
        (framer.frame text).corrections.of "keyword_operand" -
        (framer.frame text).corrections.of "material_quality") text (framer.frame text).text ∧
      (∀ (rule : Rule) (given : Text),
        Conserves (rule.balance * (rule.apply given).2) given (rule.apply given).1 ∧
          ((rule.apply given).2 = 0 ↔ (rule.apply given).1 = given)) ∧
      ((framer.frame text).changed = false →
        (framer.frame text).identifiersFramed +
            (framer.frame text).corrections.of "assignment_target" +
            (framer.frame text).corrections.of "keyword_operand" =
          (framer.frame text).corrections.of "material_quality") := by
  have scanned := framer.scanner.conserves_scan text
  have corrected := conserves_applyRules distinct (framer.scanner.frame text).1
  have whole : Conserves ((framer.frame text).identifiersFramed +
      Counts.pairs (framer.frame text).corrections) text (framer.frame text).text :=
    scanned.trans corrected
  refine ⟨whole.cast ?_, fun rule given => ⟨rule.conserves_apply given,
    rule.apply_count_eq_zero_iff given⟩, ?_⟩
  · simp only [Counts.pairs]
    omega
  · intro unchanged
    have same : (framer.frame text).text = text := by simpa [frame] using unchanged
    have count := whole.count
    rw [same] at count
    simp only [Counts.pairs] at count
    omega

/-- Rules in an unusual order, with empty phrases and a material of two words. -/
theorem conserves_frame_emptyPhrases :
    ([.materialQuality ⟨["A B".toList], "OF".toList⟩, .keywordOperand ⟨[⟨[], ["OF".toList]⟩]⟩,
        .assignmentTarget ⟨[]⟩].map Rule.name).Nodup ∧
      Conserves 1 "OF |A B| OF".toList "|OF| A B |OF|".toList := by
  let framer : Framer :=
    { vocabulary := .ofWords ["OF".toList]
      rules := [.materialQuality ⟨["A B".toList], "OF".toList⟩,
        .keywordOperand ⟨[⟨[], ["OF".toList]⟩]⟩, .assignmentTarget ⟨[]⟩] }
  have distinct : (framer.rules.map Rule.name).Nodup := by decide
  have framed : framer.frame "OF |A B| OF".toList =
      { text := "|OF| A B |OF|".toList
        changed := true
        identifiersFramed := 0
        corrections := [("material_quality", 1), ("keyword_operand", 1),
          ("assignment_target", 1)] } := by
    decide +kernel
  have conserves := (framer.conserves_frame distinct "OF |A B| OF".toList).1
  rw [framed] at conserves
  exact ⟨distinct, conserves.cast (by decide)⟩

end Framer

end NameFraming
