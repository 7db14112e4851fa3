import NameFraming.Proofs.Framer.Conservation

/-! The scan of a text and the scan of its lines. A scan of a text passes over some lines and writes
only those anew on which it has found a name, while a line by itself is always cut and written; both
give the same. And whatever opens commentary, a scanned line holds no name for a second scan: either
its tokens are the ones that were written, or the first delimiters have turned it into commentary.
-/

namespace NameFraming.Scanner

variable (scanner : Scanner)

theorem not_frames_of_passthrough {line : Text} {token : Token}
    (passed : isPassthrough scanner.commentMarker line = true)
    (member : token ∈ tokenize scanner.commentMarker line) : ¬ scanner.frames token = true :=
  List.countP_eq_zero.mp (scanner.count_frameTokens_of_passthrough passed) token member

theorem not_frames_frameToken (token : Token) :
    ¬ scanner.frames (scanner.frameToken token) = true := by
  unfold frameToken
  split
  · simp [frames, Token.framed]
  · assumption

/-- The commentary marker may be anything here, also one that a delimiter or a word completes. -/
theorem not_frames_of_mem_frameLine {line : Text} {token : Token}
    (member : token ∈ tokenize scanner.commentMarker (scanner.frameLine line)) :
    ¬ scanner.frames token = true := by
  cases passed : isPassthrough scanner.commentMarker line with
  | true =>
      rw [scanner.frameLine_of_passthrough passed] at member
      exact scanner.not_frames_of_passthrough passed member
  | false =>
      cases passedNow : isPassthrough scanner.commentMarker (scanner.frameLine line) with
      | true => exact scanner.not_frames_of_passthrough passedNow member
      | false =>
          have wellFormed :=
            (scanner.framesExactly_map (lex line)).tokensWellFormed (tokensWellFormed_lex line)
          rw [tokenize_of_not_passthrough passedNow, frameLine, frameTokens,
            tokenize_of_not_passthrough passed, lex_render wellFormed] at member
          obtain ⟨old, _, rfl⟩ := List.mem_map.mp member
          exact scanner.not_frames_frameToken old

theorem lines_frame (text : Text) :
    (scanner.frame text).1.lines = text.lines.map scanner.frameLine := by
  have noBreak : ∀ line, '\n' ∉ line → '\n' ∉ (scanner.scanLine line).1 := by
    intro line free
    rw [scanner.scanLine_fst]
    exact scanner.newline_not_mem_frameLine free
  rw [frame, lines_overLines noBreak]
  exact List.map_congr_left fun line _ => scanner.scanLine_fst line

theorem count_frame (text : Text) :
    (scanner.frame text).2 =
      (text.lines.flatMap (tokenize scanner.commentMarker)).countP scanner.frames := by
  simp only [frame, overLines, List.map_map, List.countP_flatMap, Function.comp_def,
    scanner.scanLine_eq, frameTokens]
  rfl

theorem frame_count_eq_zero_iff (text : Text) :
    (scanner.frame text).2 = 0 ↔ (scanner.frame text).1 = text := by
  constructor
  · refine overLines_of_count_eq_zero fun line none => ?_
    rw [scanner.scanLine_eq] at none ⊢
    exact scanner.frameLine_of_count_eq_zero none
  · intro same
    have count := (scanner.conserves_scan text).count
    rw [same] at count
    omega

theorem count_frame_frame (text : Text) : (scanner.frame (scanner.frame text).1).2 = 0 := by
  rw [count_frame, lines_frame, List.countP_eq_zero]
  intro token member
  obtain ⟨framed, inLines, inLine⟩ := List.mem_flatMap.mp member
  obtain ⟨line, _, rfl⟩ := List.mem_map.mp inLines
  exact scanner.not_frames_of_mem_frameLine inLine

/-- For every vocabulary and everything that may open commentary, a scan writes what each line
becomes by itself and counts the names on all lines; it counts none exactly when it changes nothing,
and so it is with every text that was scanned before. -/
theorem frame_agrees_with_frameLine (scanner : Scanner) (text : Text) :
    scanner.frame text =
        (Text.unlines (text.lines.map scanner.frameLine),
          (text.lines.flatMap (tokenize scanner.commentMarker)).countP fun token =>
            token.kind = .word ∧ scanner.isIdentifier token.text = true) ∧
      ((scanner.frame text).2 = 0 ↔ (scanner.frame text).1 = text) ∧
      scanner.frame (scanner.frame text).1 = ((scanner.frame text).1, 0) := by
  refine ⟨Prod.ext ?_ ?_, scanner.frame_count_eq_zero_iff text, ?_⟩
  · rw [← scanner.lines_frame, Text.unlines_lines]
  · rw [scanner.count_frame]
    refine List.countP_congr fun token _ => ?_
    simp [frames]
  · have none := scanner.count_frame_frame text
    exact Prod.ext ((scanner.frame_count_eq_zero_iff _).mp none) none

/-- A delimiter that opens commentary: the framed name is passed over from then on. -/
example :
    let scanner : Scanner := { vocabulary := .ofWords [], commentMarker := ['|'] }
    scanner.frame "NAME".toList = ("|NAME|".toList, 1) ∧
      isPassthrough ['|'] "|NAME|".toList = true := by
  decide +kernel

end NameFraming.Scanner
