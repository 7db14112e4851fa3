import NameFraming.Proofs.Correction.Corrected
import NameFraming.Proofs.Framer.OneReading
import NameFraming.Proofs.Vocabulary

/-! Scans one after the other. What one scan has framed is no word for the next, so scans with
several vocabularies frame together, in any order, what a single scan frames with the words that all
of them reserve. -/

namespace NameFraming.Scanner

variable {first second both : Vocabulary}

/-- A scan of a text that was scanned before. Both together have framed the words that are counted.
-/
def frameAgain (scanner : Scanner) (scanned : Text × Nat) : Text × Nat :=
  ((scanner.frame scanned.1).1, scanned.2 + (scanner.frame scanned.1).2)

section Common

variable (common : ∀ word, both.isKeyword word = (first.isKeyword word && second.isKeyword word))
include common

theorem frameToken_frameToken (token : Token) :
    frameToken { vocabulary := first } (frameToken { vocabulary := second } token) =
      frameToken { vocabulary := both } token := by
  have either : frames { vocabulary := both } token =
      (frames { vocabulary := first } token || frames { vocabulary := second } token) := by
    simp only [frames, isIdentifier, common, Bool.not_and]
    cases token.kind == .word <;> cases isBareName token.text <;> rfl
  by_cases framed : frames { vocabulary := second } token = true
  · have framedOnce : ¬ frames { vocabulary := first } token.framed = true := by
      simp [frames, Token.framed]
    simp only [frameToken, either, framed, Bool.or_true, if_true, if_neg framedOnce]
  · simp only [frameToken, either, Bool.eq_false_iff.mpr framed, Bool.or_false, Bool.false_eq_true,
      if_false]

theorem frameLine_frameLine (line : Text) :
    frameLine { vocabulary := first } (frameLine { vocabulary := second } line) =
      frameLine { vocabulary := both } line := by
  have framing :=
    framesExactly_map { vocabulary := second } (tokenize NameFraming.commentMarker line)
  have read : tokenize NameFraming.commentMarker (frameLine { vocabulary := second } line) =
      (tokenize NameFraming.commentMarker line).map (frameToken { vocabulary := second }) :=
    framing.readable (readable_tokenize line)
  simp only [frameLine, frameTokens] at read ⊢
  rw [read, List.map_map]
  exact congrArg render (List.map_congr_left fun token _ => frameToken_frameToken common token)

theorem text_frame_frame (text : Text) :
    (frame { vocabulary := first } (frame { vocabulary := second } text).1).1 =
      (frame { vocabulary := both } text).1 := by
  have noBreak : ∀ line, '\n' ∉ line →
      '\n' ∉ (scanLine { vocabulary := second } line).1 := by
    intro line free
    rw [scanLine_fst]
    exact newline_not_mem_frameLine _ free
  simp only [frame, overLines_overLines noBreak]
  refine overLines_fst_congr (fun line => ?_) text
  simp only [scanLine_fst, frameLine_frameLine common]

/-- The counts are the pairs of delimiters that each scan has put in, and these are the same pairs.
-/
theorem frameAgain_frame (text : Text) :
    frameAgain { vocabulary := first } (frame { vocabulary := second } text) =
      frame { vocabulary := both } text := by
  have same := text_frame_frame common text
  have earlier := (conserves_scan { vocabulary := second } text).count
  have later := (conserves_scan { vocabulary := first }
    (frame { vocabulary := second } text).1).count
  have whole := (conserves_scan { vocabulary := both } text).count
  rw [← same] at whole
  refine Prod.ext same ?_
  simp only [frameAgain]
  omega

end Common

/-- Scanning with one vocabulary after another is scanning once with the words that both reserve. So
a second scan with the same vocabulary frames nothing, the order of scans does not matter, and when
words are taken out of a vocabulary, a text that was scanned with it can be scanned on as it is. -/
theorem frame_intersection (first second : Vocabulary) (text : Text) :
    frameAgain { vocabulary := first } (frame { vocabulary := second } text) =
        frame { vocabulary := first.intersection second } text ∧
      (∀ word, word ∈ (first.intersection second).words ↔
        word ∈ first.words ∧ word ∈ second.words) ∧
      frame { vocabulary := first } (frame { vocabulary := first } text).1 =
        ((frame { vocabulary := first } text).1, 0) ∧
      frameAgain { vocabulary := first } (frame { vocabulary := second } text) =
        frameAgain { vocabulary := second } (frame { vocabulary := first } text) ∧
      ∀ removed : List Text,
        frameAgain { vocabulary := second.without removed } (frame { vocabulary := second } text) =
          frame { vocabulary := second.without removed } text := by
  have common := Vocabulary.isKeyword_intersection first second
  have swapped : ∀ word, (first.intersection second).isKeyword word =
      (second.isKeyword word && first.isKeyword word) := fun word => by
    rw [common, Bool.and_comm]
  have own : ∀ word, first.isKeyword word = (first.isKeyword word && first.isKeyword word) :=
    fun word => (Bool.and_self _).symm
  refine ⟨frameAgain_frame common text, fun word => ?_, ?_,
    (frameAgain_frame common text).trans (frameAgain_frame swapped text).symm, ?_⟩
  · rw [Vocabulary.words_intersection, List.mem_filter, List.contains_iff_mem]
  · have again := frameAgain_frame own text
    rw [frameAgain, Prod.ext_iff] at again
    exact Prod.ext again.1 (by simpa using again.2)
  · intro removed
    refine frameAgain_frame (fun word => ?_) text
    rw [Bool.eq_iff_iff, Bool.and_eq_true, Vocabulary.isKeyword_without_iff]
    tauto

end NameFraming.Scanner
