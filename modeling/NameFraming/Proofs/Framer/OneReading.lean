import NameFraming.Proofs.Framer.Passes

/-! Every pass over a line writes it out and has it cut into tokens anew. As long as delimiters are
only put in, the tokens that are cut are the ones that were written; so it is enough to cut a line
once and to hand its tokens from pass to pass. -/

namespace NameFraming

variable {tokens after : List Token} {line : Text}

/-- Tokens that are read from their text again. -/
def Readable (tokens : List Token) : Prop :=
  tokenize commentMarker (render tokens) = tokens

theorem readable_tokenize (line : Text) : Readable (tokenize commentMarker line) := by
  rw [Readable, render_tokenize]

theorem FramesExactly.readable {marked : Nat → Prop} (framing : FramesExactly marked tokens after)
    (readable : Readable tokens) : Readable after := by
  have read : tokenize commentMarker (render tokens) = tokens := readable
  cases passed : isPassthrough commentMarker (render tokens) with
  | true =>
      have noNames := no_names_of_passthrough passed
      rw [read] at noNames
      rw [framing.eq_of_no_names noNames]
      exact readable
  | false =>
      have before := lineTokens_tokenize passed
      rw [read] at before
      exact (framing.lineTokens before).tokenize_render

namespace Rule

/-- Rules that put delimiters around words, and take none away. -/
def OnlyFrames : Rule → Prop
  | assignmentTarget _ => True
  | keywordOperand _ => True
  | materialQuality _ => False

theorem readable_rewrite {rule : Rule} (frames : rule.OnlyFrames) (readable : Readable tokens) :
    Readable (rule.rewrite tokens).1 := by
  cases rule with
  | assignmentTarget target => exact (target.framesExactly_rewrite tokens).readable readable
  | keywordOperand operand => exact (operand.framesExactly_rewrite tokens).readable readable
  | materialQuality quality => cases frames

theorem apply_render (rule : Rule) (readable : Readable tokens) (noBreak : '\n' ∉ render tokens) :
    rule.apply (render tokens) = (render (rule.rewrite tokens).1, (rule.rewrite tokens).2) := by
  have read : tokenize commentMarker (render tokens) = tokens := readable
  rw [apply, overLines_of_newline_not_mem _ noBreak, correctLine_eq, read]

end Rule

/-- Rules one after the other on the same tokens. -/
def rewriteTokens : List Rule → List Token → List Token × Counts
  | [], tokens => (tokens, [])
  | rule :: rules, tokens =>
      let corrected := rule.rewrite tokens
      let later := rewriteTokens rules corrected.1
      (later.1, (rule.name, corrected.2) :: later.2)

/-- What the last rule leaves is not read any more, so that rule may take delimiters away. -/
theorem applyRules_render {rules : List Rule} (frames : ∀ rule ∈ rules.dropLast, rule.OnlyFrames)
    (readable : Readable tokens) (noBreak : '\n' ∉ render tokens) :
    applyRules rules (render tokens) =
      (render (rewriteTokens rules tokens).1, (rewriteTokens rules tokens).2) := by
  induction rules generalizing tokens with
  | nil => rfl
  | cons rule rest ih =>
      have first := rule.apply_render readable noBreak
      cases rest with
      | nil => simp only [applyRules, rewriteTokens, first]
      | cons next others =>
          simp only [List.dropLast_cons_cons, List.forall_mem_cons] at frames
          have later := ih frames.2 (Rule.readable_rewrite frames.1 readable)
            (rule.newline_not_mem_rewrite noBreak)
          rw [applyRules, rewriteTokens, first]
          simp only [later]

namespace Framer

theorem frame_eq_rewriteTokens (framer : Framer)
    (frames : ∀ rule ∈ framer.rules.dropLast, rule.OnlyFrames) (noBreak : '\n' ∉ line) :
    let scanned := framer.scanner.frameTokens (tokenize commentMarker line)
    let corrected := rewriteTokens framer.rules scanned.1
    framer.frame line =
      { text := render corrected.1
        changed := render corrected.1 != line
        identifiersFramed := scanned.2
        corrections := corrected.2 } := by
  intro scanned corrected
  have scan : framer.scanner.frame line = (render scanned.1, scanned.2) := by
    rw [Scanner.frame, overLines_of_newline_not_mem _ noBreak]
    exact framer.scanner.scanLine_eq line
  have readable : Readable scanned.1 :=
    (framer.scanner.framesExactly_map _).readable (readable_tokenize line)
  have noBreakScanned : '\n' ∉ render scanned.1 := framer.scanner.newline_not_mem_frameLine noBreak
  have rewritten := applyRules_render frames readable noBreakScanned
  simp only [frame, scan, rewritten, corrected]

/-- With any words and any phrases, a line is framed as if it were cut into tokens once and every
pass worked on the tokens that the one before has left. -/
theorem frame_on_tokens (vocabulary : Vocabulary) (marker : List Text)
    (exceptions : List (List Text × List Text)) (materials : List Text) (preposition : Text)
    (line : Text) (noBreak : '\n' ∉ line) :
    let scanner : Scanner := { vocabulary }
    let target := AssignmentTarget.ofWords marker
    let operand := KeywordOperand.ofPairs exceptions
    let quality := MaterialQuality.ofWords materials preposition
    let framer : Framer :=
      { vocabulary
        rules := [.assignmentTarget target, .keywordOperand operand, .materialQuality quality] }
    let scanned := scanner.frameTokens (tokenize commentMarker line)
    let targeted := target.rewrite scanned.1
    let named := operand.rewrite targeted.1
    let qualified := quality.rewrite named.1
    framer.frame line =
      { text := render qualified.1
        changed := render qualified.1 != line
        identifiersFramed := scanned.2
        corrections :=
          [("assignment_target", targeted.2), ("keyword_operand", named.2),
            ("material_quality", qualified.2)] } := by
  intro scanner target operand quality framer scanned targeted named qualified
  have frames : ∀ rule ∈ framer.rules.dropLast, rule.OnlyFrames := by
    intro rule member
    rcases List.mem_cons.mp member with rfl | later
    · trivial
    · rw [List.mem_singleton.mp later]
      trivial
  exact framer.frame_eq_rewriteTokens frames noBreak

/-- A marker without words, a material of two words, and a quotation that is left open. -/
theorem frame_on_tokens_unclosed :
    let line := "SHOW X PUT OF. OF |A B| \"|".toList
    let framer : Framer :=
      { vocabulary := .ofWords ["SHOW".toList, "PUT".toList, "OF".toList]
        rules :=
          [.assignmentTarget (.ofWords []),
            .keywordOperand (.ofPairs [(["put".toList], ["of".toList])]),
            .materialQuality (.ofWords ["a b".toList] "of".toList)] }
    '\n' ∉ line ∧
      framer.frame line =
        { text := "|SHOW| |X| PUT |OF|. OF A B \"|".toList
          changed := true
          identifiersFramed := 1
          corrections :=
            [("assignment_target", 1), ("keyword_operand", 1), ("material_quality", 1)] } := by
  intro line framer
  have noBreak : '\n' ∉ line := by decide
  refine ⟨noBreak, (frame_on_tokens _ _ _ _ _ line noBreak).trans ?_⟩
  decide +kernel

end Framer

end NameFraming
