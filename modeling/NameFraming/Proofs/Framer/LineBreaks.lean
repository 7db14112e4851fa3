import NameFraming.Proofs.Framer.Edits

/-! Lines are framed apart from each other: nothing that is open at the end of a line reaches into
the next one, and the line endings themselves are left alone. -/

namespace NameFraming

/-- A text that ends in plain text ends in the same character afterwards. -/
structure KeepsEnd (text after : Text) : Prop where
  empty : text = [] → after = []
  plain : ∀ c, isPlain c = true → text.getLast? = some c → after.getLast? = some c

namespace KeepsEnd

variable {text middle after : Text}

theorem refl (text : Text) : KeepsEnd text text :=
  ⟨id, fun _ _ => id⟩

theorem trans (first : KeepsEnd text middle) (second : KeepsEnd middle after) :
    KeepsEnd text after :=
  ⟨second.empty ∘ first.empty, fun c plain => second.plain c plain ∘ first.plain c plain⟩

theorem append {later laterAfter : Text} (first : KeepsEnd text after)
    (second : KeepsEnd later laterAfter) : KeepsEnd (text ++ later) (after ++ laterAfter) := by
  refine ⟨fun both => ?_, fun c plain last => ?_⟩
  · obtain ⟨noText, noLater⟩ := List.append_eq_nil_iff.mp both
    rw [first.empty noText, second.empty noLater, List.append_nil]
  · by_cases noLater : later = []
    · rw [noLater, List.append_nil] at last
      rw [second.empty noLater, List.append_nil]
      exact first.plain c plain last
    · rw [List.getLast?_append_of_ne_nil _ noLater] at last
      have lastAfter := second.plain c plain last
      rw [List.getLast?_append, lastAfter, Option.some_or]

theorem composes : Composes KeepsEnd :=
  ⟨.refl, .append⟩

/-- What ends in no plain text may end in anything afterwards. -/
theorem of_last {c : Char} (last : text.getLast? = some c) (notPlain : isPlain c = false) :
    KeepsEnd text after := by
  refine ⟨fun empty => ?_, fun d plain other => ?_⟩
  · rw [empty] at last
    cases last
  · cases last.symm.trans other
    rw [notPlain] at plain
    cases plain

theorem frameWord {word : Text} (name : isBareName word = true) :
    KeepsEnd word (frameWord word) := by
  obtain ⟨nonempty, wordChars, _⟩ := isBareName_iff.mp name
  have wordChar := wordChars _ (List.getLast_mem nonempty)
  exact of_last (List.getLast?_eq_some_getLast nonempty) (by simp [isPlain, wordChar])

theorem inner {token : Token} (delimited : token.kind = .delimited)
    (closed : token.terminated = true) : KeepsEnd token.text token.inner := by
  have last : token.text.getLast? = some delimiter := by
    simp only [Token.terminated, delimited, Bool.and_eq_true, beq_iff_eq] at closed
    exact closed.2
  exact of_last last (by simp [isPlain])

end KeepsEnd

section Passes

variable {tokens after : List Token}

theorem FramesExactly.keepsEnd {marked : Nat → Prop} (framing : FramesExactly marked tokens after) :
    KeepsEnd (render tokens) (render after) := by
  refine KeepsEnd.composes.render framing.samePlain.length fun index old new oldFound newFound => ?_
  rcases framing.getElem?_eq oldFound with kept | ⟨_, _, name, framed⟩
  · cases newFound.symm.trans kept
    exact .refl _
  · cases newFound.symm.trans framed
    exact .frameWord name

theorem MaterialQuality.keepsEnd (rule : MaterialQuality) (tokens : List Token) :
    KeepsEnd (render tokens) (render (rule.rewrite tokens).1) := by
  have stripping := rule.stripsExactly_rewrite tokens
  refine KeepsEnd.composes.render rule.length_rewrite fun index old new oldFound newFound => ?_
  by_cases strips : rule.StripsAt (rule.rewrite tokens).1 tokens index
  · obtain ⟨_, sameFound, delimited, closed, _⟩ := strips.material
    cases oldFound.symm.trans sameFound
    rw [stripping.strips index strips, oldFound] at newFound
    cases newFound
    exact .inner delimited closed
  · rw [stripping.keeps index strips, oldFound] at newFound
    cases newFound
    exact .refl _

theorem Rule.keepsEnd_correctLine (rule : Rule) (line : Text) :
    KeepsEnd line (rule.correctLine line).1 := by
  rw [rule.correctLine_fst]
  nth_rewrite 1 [← render_tokenize commentMarker line]
  cases rule with
  | assignmentTarget target => exact (target.framesExactly_rewrite _).keepsEnd
  | keywordOperand operand => exact (operand.framesExactly_rewrite _).keepsEnd
  | materialQuality quality => exact quality.keepsEnd _

theorem Scanner.keepsEnd_frameLine (scanner : Scanner) (line : Text) :
    KeepsEnd line (scanner.frameLine line) := by
  have framed := (scanner.framesExactly_map (tokenize scanner.commentMarker line)).keepsEnd
  rwa [render_tokenize] at framed

end Passes

namespace Framer

theorem keepsEnd_transform (framer : Framer) (text : Text) :
    KeepsEnd text (framer.transform text) := by
  have ofRules : ∀ (rules : List Rule) (line : Text),
      KeepsEnd line (rules.foldl (fun corrected rule => (rule.correctLine corrected).1) line) := by
    intro rules
    induction rules with
    | nil => exact .refl
    | cons rule rest ih => exact fun line => (rule.keepsEnd_correctLine line).trans (ih _)
  have ofLine : ∀ line, KeepsEnd line (framer.frameLine line) := fun line =>
    (framer.scanner.keepsEnd_frameLine line).trans (ofRules framer.rules _)
  have ofLines := KeepsEnd.composes.unlines ofLine text.lines
  rwa [Text.unlines_lines, ← framer.transform_eq_unlines] at ofLines

theorem count_newline_transform (framer : Framer) (text : Text) :
    (framer.transform text).count '\n' = text.count '\n' := by
  have sameLength := congrArg List.length (framer.lines_transform text)
  rw [List.length_map, Text.length_lines, Text.length_lines] at sameLength
  exact Nat.succ.inj sameLength

theorem applyRules_append (rules : List Rule) (first second : Text) :
    (applyRules rules (first ++ '\n' :: second)).1 =
        (applyRules rules first).1 ++ '\n' :: (applyRules rules second).1 ∧
      ∀ name, Counts.of (applyRules rules (first ++ '\n' :: second)).2 name =
        Counts.of (applyRules rules first).2 name + Counts.of (applyRules rules second).2 name := by
  induction rules generalizing first second with
  | nil => exact ⟨rfl, fun _ => rfl⟩
  | cons rule rest ih =>
      obtain ⟨laterText, laterCounts⟩ := ih (rule.apply first).1 (rule.apply second).1
      have applied := overLines_append rule.correctLine first second
      simp only [applyRules, Rule.apply] at laterText laterCounts ⊢
      rw [applied]
      refine ⟨laterText, fun name => ?_⟩
      have ofRest := laterCounts name
      simp only [Counts.of, List.lookup_cons] at ofRest ⊢
      cases name == rule.name with
      | true => rfl
      | false => exact ofRest

theorem frame_append (framer : Framer) (first second : Text) :
    (framer.frame (first ++ '\n' :: second)).text =
        (framer.frame first).text ++ '\n' :: (framer.frame second).text ∧
      (framer.frame (first ++ '\n' :: second)).identifiersFramed =
        (framer.frame first).identifiersFramed + (framer.frame second).identifiersFramed ∧
      ∀ name, (framer.frame (first ++ '\n' :: second)).corrections.of name =
        (framer.frame first).corrections.of name + (framer.frame second).corrections.of name := by
  have scanned := overLines_append framer.scanner.scanLine first second
  obtain ⟨text, counts⟩ := applyRules_append framer.rules (framer.scanner.frame first).1
    (framer.scanner.frame second).1
  simp only [frame, Scanner.frame, scanned] at text counts ⊢
  exact ⟨text, trivial, counts⟩

/-- A carriage return at the end of a line stays there. -/
theorem exists_frame_of_return (framer : Framer) (front back : Text) :
    ∃ framed, (framer.frame (front ++ '\r' :: '\n' :: back)).text =
        framed ++ '\r' :: '\n' :: (framer.frame back).text ∧
      framed.count '\n' = front.count '\n' := by
  have last : (framer.transform (front ++ ['\r'])).getLast? = some '\r' :=
    (framer.keepsEnd_transform _).plain '\r' (by decide) (by simp)
  obtain ⟨framed, ends⟩ := List.getLast?_eq_some_iff.mp last
  have breaks := framer.count_newline_transform (front ++ ['\r'])
  rw [ends, List.count_append, List.count_append, Nat.add_right_cancel_iff] at breaks
  refine ⟨framed, ?_, breaks⟩
  calc (framer.frame (front ++ '\r' :: '\n' :: back)).text
      = (framer.frame (front ++ ['\r'] ++ '\n' :: back)).text := by rw [List.append_cons]
    _ = framer.transform (front ++ ['\r']) ++ '\n' :: (framer.frame back).text :=
        (framer.frame_append (front ++ ['\r']) back).1
    _ = framed ++ '\r' :: '\n' :: (framer.frame back).text := by rw [ends, ← List.append_cons]

/-- Framing two texts with a line feed between them is framing each of them. So every line keeps
its place and its ending, whatever the line before it leaves open. -/
theorem frame_line_by_line (framer : Framer) :
    (∀ first second : Text,
      (framer.frame (first ++ '\n' :: second)).text =
          (framer.frame first).text ++ '\n' :: (framer.frame second).text ∧
        (framer.frame (first ++ '\n' :: second)).identifiersFramed =
          (framer.frame first).identifiersFramed + (framer.frame second).identifiersFramed ∧
        ∀ name, (framer.frame (first ++ '\n' :: second)).corrections.of name =
          (framer.frame first).corrections.of name + (framer.frame second).corrections.of name) ∧
      (∀ text, (framer.frame text).text.count '\n' = text.count '\n') ∧
      ∀ front back : Text, ∃ framed,
        (framer.frame (front ++ '\r' :: '\n' :: back)).text =
            framed ++ '\r' :: '\n' :: (framer.frame back).text ∧
          framed.count '\n' = front.count '\n' :=
  ⟨framer.frame_append, framer.count_newline_transform, framer.exists_frame_of_return⟩

end Framer

end NameFraming
