import NameFraming.Framer
import NameFraming.Proofs.Correction.AssignmentTarget
import NameFraming.Proofs.Correction.KeywordOperand
import NameFraming.Proofs.Correction.MaterialQuality

/-! A framer works line by line. Every pass goes over all lines, but no pass makes or removes a line
feed, so the passes can be taken together on each line. -/

namespace NameFraming

namespace Text

theorem newline_not_mem_of_mem_lines {text line : Text} (member : line ∈ text.lines) :
    '\n' ∉ line := by
  unfold lines at member
  induction text generalizing line with
  | nil =>
      rw [List.splitOn_nil, List.mem_singleton] at member
      simp [member]
  | cons c rest ih =>
      rw [List.splitOn_cons_eq_if_modifyHead] at member
      split at member
      · rcases List.mem_cons.mp member with rfl | later
        · simp
        · exact ih later
      · rename_i notBreak
        cases found : rest.splitOn '\n' with
        | nil => exact absurd found (List.splitOn_ne_nil '\n' rest)
        | cons first others =>
            rw [found, List.modifyHead_cons] at member
            rw [found] at ih
            rcases List.mem_cons.mp member with rfl | later
            · have inFirst := ih (List.mem_cons_self)
              simp only [List.mem_cons, not_or]
              exact ⟨fun same => notBreak (by simp [← same]), inFirst⟩
            · exact ih (List.mem_cons_of_mem first later)

theorem lines_unlines {lines : List Text} (nonempty : lines ≠ [])
    (noBreak : ∀ line ∈ lines, '\n' ∉ line) : (unlines lines).lines = lines :=
  List.splitOn_intercalate '\n' noBreak nonempty

theorem unlines_cons_cons (first second : Text) (rest : List Text) :
    unlines (first :: second :: rest) = first ++ '\n' :: unlines (second :: rest) := by
  simp [unlines, List.intercalate]

theorem lines_of_newline_not_mem {line : Text} (noBreak : '\n' ∉ line) : line.lines = [line] :=
  List.splitOn_eq_singleton noBreak

theorem lines_append (first second : Text) :
    (first ++ '\n' :: second).lines = first.lines ++ second.lines :=
  List.splitOn_append_cons_self first second

theorem unlines_append {first second : List Text} (firstSome : first ≠ [])
    (secondSome : second ≠ []) :
    unlines (first ++ second) = unlines first ++ '\n' :: unlines second := by
  induction first with
  | nil => exact absurd rfl firstSome
  | cons line rest ih =>
      cases rest with
      | nil =>
          obtain ⟨next, later, rfl⟩ := List.exists_cons_of_ne_nil secondSome
          simp only [List.cons_append, List.nil_append, unlines_cons_cons]
          simp [unlines]
      | cons next later =>
          have rest := ih (by simp)
          simp only [List.cons_append, unlines_cons_cons, List.append_assoc] at rest ⊢
          rw [rest]

theorem length_lines (text : Text) : text.lines.length = text.count '\n' + 1 := by
  unfold lines
  induction text with
  | nil => rfl
  | cons c rest ih =>
      rw [List.splitOn_cons_eq_if_modifyHead, List.count_cons]
      split
      · rw [List.length_cons, ih]
      · rw [List.length_modifyHead, ih]

end Text

theorem lines_overLines {rewriteLine : Text → Text × Nat}
    (noBreak : ∀ line, '\n' ∉ line → '\n' ∉ (rewriteLine line).1) (text : Text) :
    (overLines rewriteLine text).1.lines = text.lines.map fun line => (rewriteLine line).1 := by
  simp only [overLines, List.map_map]
  apply Text.lines_unlines
  · simpa using Text.lines_ne_nil text
  · intro line member
    obtain ⟨old, oldMember, rfl⟩ := List.mem_map.mp member
    exact noBreak old (Text.newline_not_mem_of_mem_lines oldMember)

theorem overLines_of_newline_not_mem (rewriteLine : Text → Text × Nat) {line : Text}
    (noBreak : '\n' ∉ line) : overLines rewriteLine line = rewriteLine line := by
  simp [overLines, Text.lines_of_newline_not_mem noBreak, Text.unlines]

theorem overLines_append (rewriteLine : Text → Text × Nat) (first second : Text) :
    overLines rewriteLine (first ++ '\n' :: second) =
      ((overLines rewriteLine first).1 ++ '\n' :: (overLines rewriteLine second).1,
        (overLines rewriteLine first).2 + (overLines rewriteLine second).2) := by
  have some : ∀ text : Text, (text.lines.map rewriteLine).map Prod.fst ≠ [] := by
    intro text
    simpa using Text.lines_ne_nil text
  simp only [overLines, Text.lines_append, List.map_append]
  apply Prod.ext
  · exact Text.unlines_append (some first) (some second)
  · exact List.sum_append

section Characters

variable {tokens after : List Token} {c : Char}

theorem mem_render_iff : c ∈ render tokens ↔ ∃ token ∈ tokens, c ∈ token.text :=
  List.mem_flatMap

theorem Token.mem_framed {token : Token} (member : c ∈ token.framed.text) :
    c = delimiter ∨ c ∈ token.text := by
  simp only [Token.framed, frameWord, List.mem_cons, List.mem_append, List.not_mem_nil,
    or_false] at member
  rcases member with same | inside | same
  · exact .inl same
  · exact .inr inside
  · exact .inl same

theorem Token.mem_inner {token : Token} (member : c ∈ token.inner) : c ∈ token.text := by
  unfold Token.inner at member
  split at member
  · split at member
    · exact List.mem_of_mem_drop (List.dropLast_subset _ member)
    · exact List.mem_of_mem_drop member
  · exact member

theorem mem_render_of_rewritten
    (rewritten : ∀ (index : Nat) (token : Token), after[index]? = some token →
      ∃ old, tokens[index]? = some old ∧
        (token = old ∨ token = old.framed ∨ token.text = old.inner))
    (member : c ∈ render after) : c = delimiter ∨ c ∈ render tokens := by
  obtain ⟨token, inAfter, inText⟩ := mem_render_iff.mp member
  obtain ⟨index, found⟩ := List.getElem?_of_mem inAfter
  obtain ⟨old, oldFound, changed⟩ := rewritten index token found
  have oldMember := List.mem_of_getElem? oldFound
  rcases changed with rfl | rfl | bare
  · exact .inr (mem_render_iff.mpr ⟨token, oldMember, inText⟩)
  · exact (Token.mem_framed inText).imp_right fun inside =>
      mem_render_iff.mpr ⟨old, oldMember, inside⟩
  · rw [bare] at inText
    exact .inr (mem_render_iff.mpr ⟨old, oldMember, Token.mem_inner inText⟩)

theorem FramesExactly.rewritten {marked : Nat → Prop} (framing : FramesExactly marked tokens after)
    (index : Nat) (token : Token) (found : after[index]? = some token) :
    ∃ old, tokens[index]? = some old ∧
      (token = old ∨ token = old.framed ∨ token.text = old.inner) := by
  cases oldFound : tokens[index]? with
  | none =>
      rw [framing.samePlain.getElem?_eq_none_iff.mpr oldFound] at found
      cases found
  | some old =>
      rcases framing.getElem?_eq oldFound with kept | ⟨_, _, _, framed⟩
      · exact ⟨old, rfl, .inl (Option.some.inj (found.symm.trans kept))⟩
      · exact ⟨old, rfl, .inr (.inl (Option.some.inj (found.symm.trans framed)))⟩

theorem MaterialQuality.rewritten (rule : MaterialQuality) (index : Nat) (token : Token)
    (found : (rule.rewrite tokens).1[index]? = some token) :
    ∃ old, tokens[index]? = some old ∧
      (token = old ∨ token = old.framed ∨ token.text = old.inner) := by
  rcases rule.getElem?_rewrite_cases tokens index with same | ⟨old, oldFound, _, bare⟩
  · rw [same] at found
    exact ⟨token, found, .inl rfl⟩
  · rw [bare] at found
    cases found
    exact ⟨old, oldFound, .inr (.inr rfl)⟩

theorem Rule.mem_render_rewrite (rule : Rule) (member : c ∈ render (rule.rewrite tokens).1) :
    c = delimiter ∨ c ∈ render tokens := by
  cases rule with
  | assignmentTarget rule =>
      exact mem_render_of_rewritten (rule.framesExactly_rewrite tokens).rewritten member
  | keywordOperand rule =>
      exact mem_render_of_rewritten (rule.framesExactly_rewrite tokens).rewritten member
  | materialQuality rule => exact mem_render_of_rewritten rule.rewritten member

end Characters

theorem Rule.rewrite_of_count_eq_zero {rule : Rule} {tokens : List Token}
    (none : (rule.rewrite tokens).2 = 0) : (rule.rewrite tokens).1 = tokens := by
  cases rule with
  | assignmentTarget rule => exact AssignmentTarget.rewrite_of_count_eq_zero none
  | keywordOperand rule => exact KeywordOperand.rewrite_of_count_eq_zero none
  | materialQuality rule => exact MaterialQuality.rewrite_of_count_eq_zero none

/-- A line that is not written anew would be written as it is. -/
theorem Rule.correctLine_eq (rule : Rule) (line : Text) :
    rule.correctLine line =
      (render (rule.rewrite (tokenize commentMarker line)).1,
        (rule.rewrite (tokenize commentMarker line)).2) := by
  simp only [Rule.correctLine]
  split
  · rename_i none
    rw [Rule.rewrite_of_count_eq_zero none, render_tokenize, none]
  · rfl

theorem Rule.correctLine_fst (rule : Rule) (line : Text) :
    (rule.correctLine line).1 = render (rule.rewrite (tokenize commentMarker line)).1 := by
  rw [rule.correctLine_eq]

theorem Rule.newline_not_mem_rewrite (rule : Rule) {tokens : List Token}
    (noBreak : '\n' ∉ render tokens) : '\n' ∉ render (rule.rewrite tokens).1 := by
  intro member
  rcases rule.mem_render_rewrite member with same | old
  · cases same
  · exact noBreak old

theorem Rule.newline_not_mem_correctLine (rule : Rule) {line : Text} (noBreak : '\n' ∉ line) :
    '\n' ∉ (rule.correctLine line).1 := by
  rw [rule.correctLine_fst]
  apply rule.newline_not_mem_rewrite
  rwa [render_tokenize]

namespace Scanner

variable (scanner : Scanner)

def IdentifierAt (scanner : Scanner) (tokens : List Token) (index : Nat) : Prop :=
  ∃ token, tokens[index]? = some token ∧ scanner.frames token = true

theorem isIdentifier_iff {word : Text} :
    scanner.isIdentifier word = true ↔
      isBareName word = true ∧ scanner.vocabulary.isKeyword word = false := by
  simp [isIdentifier]

theorem frames_iff {token : Token} :
    scanner.frames token = true ↔
      token.kind = .word ∧ isBareName token.text = true ∧
        scanner.vocabulary.isKeyword token.text = false := by
  simp [frames, isIdentifier_iff]

theorem isKeyword_of_not_identifierAt {tokens : List Token} {index : Nat} {token : Token}
    (found : tokens[index]? = some token) (isWord : token.kind = .word)
    (name : isBareName token.text = true) (kept : ¬ scanner.IdentifierAt tokens index) :
    scanner.vocabulary.isKeyword token.text = true := by
  by_contra notReserved
  have frames := scanner.frames_iff.mpr ⟨isWord, name, Bool.eq_false_iff.mpr notReserved⟩
  exact kept ⟨token, found, frames⟩

theorem framesExactly_map (tokens : List Token) :
    FramesExactly (scanner.IdentifierAt tokens) tokens (tokens.map scanner.frameToken) := by
  refine ⟨?_, ?_, ?_⟩
  · intro index ⟨token, found, frames⟩
    rw [List.getElem?_map, found, Option.map_some, Option.map_some, frameToken, if_pos frames]
  · intro index notIdentifier
    rw [List.getElem?_map]
    cases found : tokens[index]? with
    | none => rfl
    | some token =>
        have kept : ¬ scanner.frames token = true :=
          fun frames => notIdentifier ⟨token, found, frames⟩
        rw [Option.map_some, frameToken, if_neg kept]
  · intro index ⟨token, found, frames⟩
    obtain ⟨isWord, bare, _⟩ := scanner.frames_iff.mp frames
    exact ⟨token, found, isWord, bare⟩

theorem frameTokens_of_count_eq_zero {tokens : List Token}
    (none : (scanner.frameTokens tokens).2 = 0) : (scanner.frameTokens tokens).1 = tokens := by
  refine (List.map_congr_left fun token member => ?_).trans (List.map_id _)
  have notFramed := List.countP_eq_zero.mp none token member
  rw [frameToken, if_neg notFramed, id]

/-- A line that is passed through is one plain token, if any. -/
theorem count_frameTokens_of_passthrough {line : Text}
    (passed : isPassthrough scanner.commentMarker line = true) :
    (scanner.frameTokens (tokenize scanner.commentMarker line)).2 = 0 := by
  refine List.countP_eq_zero.mpr ?_
  rw [tokenize, if_pos passed]
  split <;> simp [frames]

theorem frameLine_of_count_eq_zero {line : Text}
    (none : (scanner.frameTokens (tokenize scanner.commentMarker line)).2 = 0) :
    scanner.frameLine line = line := by
  rw [frameLine, scanner.frameTokens_of_count_eq_zero none, render_tokenize]

theorem frameLine_of_passthrough {line : Text}
    (passed : isPassthrough scanner.commentMarker line = true) : scanner.frameLine line = line :=
  scanner.frameLine_of_count_eq_zero (scanner.count_frameTokens_of_passthrough passed)

/-- A line that is not written anew would be written as it is. -/
theorem scanLine_eq (line : Text) :
    scanner.scanLine line =
      (scanner.frameLine line,
        (scanner.frameTokens (tokenize scanner.commentMarker line)).2) := by
  unfold scanLine
  split
  · rename_i passed
    rw [scanner.frameLine_of_passthrough passed, scanner.count_frameTokens_of_passthrough passed]
  · simp only
    split
    · rename_i none
      rw [scanner.frameLine_of_count_eq_zero none, none]
    · rfl

theorem scanLine_fst (line : Text) : (scanner.scanLine line).1 = scanner.frameLine line := by
  rw [scanner.scanLine_eq]

theorem newline_not_mem_frameLine {line : Text} (noBreak : '\n' ∉ line) :
    '\n' ∉ scanner.frameLine line := by
  intro member
  rcases mem_render_of_rewritten (scanner.framesExactly_map _).rewritten member with same | old
  · cases same
  · rw [render_tokenize] at old
    exact noBreak old

end Scanner

namespace Framer

def frameLine (framer : Framer) (line : Text) : Text :=
  framer.rules.foldl (fun corrected rule => (rule.correctLine corrected).1)
    (framer.scanner.frameLine line)

theorem lines_applyRules (rules : List Rule) (text : Text) :
    (applyRules rules text).1.lines =
      text.lines.map fun line =>
        rules.foldl (fun corrected rule => (rule.correctLine corrected).1) line := by
  induction rules generalizing text with
  | nil => simp [applyRules]
  | cons rule rules ih =>
      simp only [applyRules, List.foldl_cons]
      rw [ih, Rule.apply, lines_overLines fun line => rule.newline_not_mem_correctLine,
        List.map_map]
      rfl

theorem lines_transform (framer : Framer) (text : Text) :
    (framer.transform text).lines = text.lines.map framer.frameLine := by
  have noBreak : ∀ line, '\n' ∉ line → '\n' ∉ (framer.scanner.scanLine line).1 := by
    intro line free
    rw [framer.scanner.scanLine_fst]
    exact framer.scanner.newline_not_mem_frameLine free
  simp only [transform, frame]
  rw [lines_applyRules, Scanner.frame, lines_overLines noBreak, List.map_map]
  apply List.map_congr_left
  intro line _
  simp only [Function.comp_apply, framer.scanner.scanLine_fst]
  rfl

theorem transform_eq_unlines (framer : Framer) (text : Text) :
    framer.transform text = Text.unlines (text.lines.map framer.frameLine) := by
  rw [← framer.lines_transform, Text.unlines_lines]

theorem transform_of_newline_not_mem (framer : Framer) {line : Text} (noBreak : '\n' ∉ line) :
    framer.transform line = framer.frameLine line := by
  rw [framer.transform_eq_unlines, Text.lines_of_newline_not_mem noBreak]
  simp [Text.unlines]

end Framer

end NameFraming
