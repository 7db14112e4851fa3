import NameFraming.Proofs.Framer.Lines

/-! The passes over one line, as rewrites of its tokens. A pass writes its tokens out and the next
one cuts the line anew; the tokens that it gets are the ones that were written, so the passes can be
composed without the text between them. -/

namespace NameFraming

/-- The tokens of a line that is looked into. -/
structure LineTokens (tokens : List Token) : Prop where
  wellFormed : TokensWellFormed tokens
  lookedInto : ¬ TokensPassed tokens

section LineTokens

variable {tokens after : List Token} {line : Text}

theorem lineTokens_tokenize (lookedInto : isPassthrough commentMarker line = false) :
    LineTokens (tokenize commentMarker line) := by
  rw [tokenize_of_not_passthrough lookedInto]
  exact ⟨tokensWellFormed_lex line, not_tokensPassed_lex lookedInto⟩

theorem LineTokens.tokenize_render (lineTokens : LineTokens tokens) :
    tokenize commentMarker (render tokens) = tokens :=
  NameFraming.tokenize_render lineTokens.wellFormed lineTokens.lookedInto

theorem LineTokens.isPassthrough_render (lineTokens : LineTokens tokens) :
    isPassthrough commentMarker (render tokens) = false := by
  rw [Bool.eq_false_iff, ne_eq, isPassthrough_render_iff lineTokens.wellFormed]
  exact lineTokens.lookedInto

theorem FramesExactly.lineTokens {marked : Nat → Prop} (framing : FramesExactly marked tokens after)
    (before : LineTokens tokens) : LineTokens after :=
  ⟨framing.tokensWellFormed before.wellFormed,
    fun passed => before.lookedInto (framing.samePlain.tokensPassed_iff.mp passed)⟩

theorem MaterialQuality.StripsExactly.lineTokens {rule : MaterialQuality}
    (stripping : rule.StripsExactly .ofRun tokens after) (before : LineTokens tokens)
    (canonical : ∀ material ∈ rule.materials, CanonicalWord material) : LineTokens after :=
  ⟨stripping.tokensWellFormed before.wellFormed canonical,
    fun passed => before.lookedInto (stripping.samePlain.tokensPassed_iff.mp passed)⟩

end LineTokens

theorem FramesExactly.eq_of_none {marked : Nat → Prop} {tokens after : List Token}
    (framing : FramesExactly marked tokens after) (none : ∀ index, ¬ marked index) :
    after = tokens := by
  apply List.ext_getElem?
  intro index
  exact framing.keeps index (none index)

theorem FramesExactly.eq_of_no_names {marked : Nat → Prop} {tokens after : List Token}
    (framing : FramesExactly marked tokens after) (noNames : ∀ index, ¬ NameAt tokens index) :
    after = tokens :=
  framing.eq_of_none fun index mark => noNames index (framing.names index mark)

section Passthrough

variable {line : Text}

theorem tokenize_of_passthrough (passed : isPassthrough commentMarker line = true) :
    tokenize commentMarker line = [] ∨ tokenize commentMarker line = [⟨.other, line⟩] := by
  rw [tokenize, if_pos passed]
  split
  · exact .inl rfl
  · exact .inr rfl

theorem no_names_of_passthrough (passed : isPassthrough commentMarker line = true) (index : Nat) :
    ¬ NameAt (tokenize commentMarker line) index := by
  intro ⟨token, found, isWord, _⟩
  rcases tokenize_of_passthrough passed with none | one
  · rw [none] at found
    cases found
  · rw [one] at found
    cases index with
    | zero =>
        cases found
        cases isWord
    | succ index => cases found

theorem Rule.correctLine_of_passthrough (rule : Rule)
    (passed : isPassthrough commentMarker line = true) : (rule.correctLine line).1 = line := by
  have kept : (rule.rewrite (tokenize commentMarker line)).1 = tokenize commentMarker line := by
    cases rule with
    | assignmentTarget rule =>
        exact (rule.framesExactly_rewrite _).eq_of_no_names (no_names_of_passthrough passed)
    | keywordOperand rule =>
        exact (rule.framesExactly_rewrite _).eq_of_no_names (no_names_of_passthrough passed)
    | materialQuality rule =>
        rcases tokenize_of_passthrough passed with none | one
        · rw [none]
          rfl
        · rw [one]
          rfl
  rw [rule.correctLine_fst, kept, render_tokenize]

theorem Framer.frameLine_of_passthrough (framer : Framer)
    (passed : isPassthrough commentMarker line = true) : framer.frameLine line = line := by
  have scanned := framer.scanner.frameLine_of_passthrough passed
  have corrected : ∀ rules : List Rule,
      rules.foldl (fun corrected rule => (rule.correctLine corrected).1) line = line := by
    intro rules
    induction rules with
    | nil => rfl
    | cons rule rules ih => rw [List.foldl_cons, rule.correctLine_of_passthrough passed, ih]
  rw [Framer.frameLine, scanned, corrected]

end Passthrough

theorem AssignmentTarget.marker_standard :
    AssignmentTarget.standard.marker = ["PLACED".toList, "AS".toList] := by decide

theorem KeywordOperand.entries_standard :
    KeywordOperand.standard.entries =
      [⟨["PUT".toList, "TOGETHER".toList], ["ANOTHER".toList]⟩] := by decide

/-- `NAME PLACED AS`, where the name is the first token of the line, not counting indentation. -/
structure PlacedAt (tokens : List Token) (index : Nat) : Prop where
  first : BlankAt tokens 0 ∧ index = 1 ∨ ¬ BlankAt tokens 0 ∧ index = 0
  name : NameAt tokens index
  gap : BlankAt tokens (index + 1)
  placed : WordAt tokens (index + 2) "PLACED".toList
  between : BlankAt tokens (index + 3)
  assigned : WordAt tokens (index + 4) "AS".toList

/-- `PUT TOGETHER ANOTHER`, where the last word ends a statement. -/
structure PutTogetherAt (tokens : List Token) (index : Nat) : Prop where
  four_le : 4 ≤ index
  put : WordAt tokens (index - 4) "PUT".toList
  between : BlankAt tokens (index - 3)
  together : WordAt tokens (index - 2) "TOGETHER".toList
  gap : BlankAt tokens (index - 1)
  operand : WordAt tokens index "ANOTHER".toList
  name : NameAt tokens index
  ends : StatementEndsAt tokens (index + 1)

/-- No other word that could be a name reads as the operand. -/
theorem PutTogetherAt.getElem?_eq {tokens : List Token} {index : Nat}
    (together : PutTogetherAt tokens index) :
    tokens[index]? = some ⟨.word, "ANOTHER".toList⟩ := by
  obtain ⟨⟨kind, text⟩, found, isWord, name⟩ := together.name
  obtain ⟨_, sameFound, reads⟩ := together.operand
  cases found.symm.trans sameFound
  have form := (Token.isWord_iff.mp reads).2
  have ascii : ∀ d ∈ upper text, d.toNat < 0x80 := by
    have small : "ANOTHER".toList.all (fun d => Nat.blt d.toNat 0x80) = true := by decide
    rw [form]
    intro d member
    exact Nat.blt_eq.mp (List.all_eq_true.mp small d member)
  have noLowercase : ∀ c ∈ text, isLowercase c = false := (isBareName_iff.mp name).2.2.2
  rw [upper_eq_self_of_ascii noLowercase ascii] at form
  cases isWord
  rw [found, form]

theorem targetAt_standard_iff {tokens : List Token} {index : Nat} :
    AssignmentTarget.standard.TargetAt tokens index ↔ PlacedAt tokens index := by
  constructor
  · intro ⟨first, name, gap, marker⟩
    rw [AssignmentTarget.marker_standard, Phrase.standsAt_pair_iff] at marker
    exact ⟨first, name, gap, marker.1, marker.2.1, marker.2.2⟩
  · intro ⟨first, name, gap, placed, between, assigned⟩
    refine ⟨first, name, gap, ?_⟩
    rw [AssignmentTarget.marker_standard, Phrase.standsAt_pair_iff]
    exact ⟨placed, between, assigned⟩

theorem isOperandAt_standard_iff {tokens : List Token} {index : Nat} :
    KeywordOperand.standard.IsOperandAt tokens index ↔ PutTogetherAt tokens index := by
  unfold KeywordOperand.IsOperandAt
  rw [KeywordOperand.entries_standard]
  simp only [List.mem_singleton, exists_eq_left]
  constructor
  · intro ⟨⟨start, behind, stands⟩, _, gap, ⟨token, found, isWord, member, bare⟩, ends⟩
    obtain rfl : index = start + 4 := behind
    obtain ⟨put, between, together⟩ := Phrase.standsAt_pair_iff.mp stands
    have reads : upper token.text = "ANOTHER".toList := List.mem_singleton.mp member
    exact ⟨by omega, put, between, together, gap,
      ⟨token, found, Token.isWord_iff.mpr ⟨isWord, reads⟩⟩, ⟨token, found, isWord, bare⟩, ends⟩
  · intro ⟨late, put, between, together, gap, ⟨token, found, reads⟩, name, ends⟩
    obtain ⟨start, rfl⟩ : ∃ start, index = start + 4 := ⟨index - 4, by omega⟩
    obtain ⟨isWord, operand⟩ := Token.isWord_iff.mp reads
    obtain ⟨_, sameFound, _, bare⟩ := name
    cases found.symm.trans sameFound
    exact ⟨⟨start, rfl, Phrase.standsAt_pair_iff.mpr ⟨put, between, together⟩⟩, by omega, gap,
      ⟨token, found, isWord, List.mem_singleton.mpr operand, bare⟩, ends⟩

def scanned (vocabulary : Vocabulary) (tokens : List Token) : List Token :=
  tokens.map (Scanner.frameToken { vocabulary })

/-- The tokens after the target of an assignment is framed, too. -/
def targeted (vocabulary : Vocabulary) (tokens : List Token) : List Token :=
  (AssignmentTarget.standard.rewrite (scanned vocabulary tokens)).1

/-- The tokens after all names are framed, and before materials lose their delimiters. -/
def named (vocabulary : Vocabulary) (tokens : List Token) : List Token :=
  (KeywordOperand.standard.rewrite (targeted vocabulary tokens)).1

section Named

variable (vocabulary : Vocabulary) (tokens : List Token)

theorem framesExactly_scanned :
    FramesExactly (Scanner.IdentifierAt { vocabulary } tokens) tokens (scanned vocabulary tokens) :=
  Scanner.framesExactly_map { vocabulary } tokens

theorem framesExactly_targeted :
    FramesExactly (AssignmentTarget.standard.TargetAt (scanned vocabulary tokens))
      (scanned vocabulary tokens) (targeted vocabulary tokens) :=
  AssignmentTarget.standard.framesExactly_rewrite _

theorem framesExactly_named_of_targeted :
    FramesExactly (KeywordOperand.standard.IsOperandAt (targeted vocabulary tokens))
      (targeted vocabulary tokens) (named vocabulary tokens) :=
  KeywordOperand.standard.framesExactly_rewrite _

/-- The words that one of the first three passes frames. -/
def BecomesName (vocabulary : Vocabulary) (tokens : List Token) (index : Nat) : Prop :=
  (Scanner.IdentifierAt { vocabulary } tokens index ∨
    AssignmentTarget.standard.TargetAt (scanned vocabulary tokens) index) ∨
    KeywordOperand.standard.IsOperandAt (targeted vocabulary tokens) index

theorem framesExactly_named :
    FramesExactly (BecomesName vocabulary tokens) tokens (named vocabulary tokens) :=
  ((framesExactly_scanned vocabulary tokens).trans
    (framesExactly_targeted vocabulary tokens)).trans
      (framesExactly_named_of_targeted vocabulary tokens)

end Named

theorem not_identifierAt_named {vocabulary : Vocabulary} {tokens : List Token} {index : Nat} :
    ¬ Scanner.IdentifierAt { vocabulary } (named vocabulary tokens) index := by
  intro ⟨token, found, frames⟩
  have isWord := ((Scanner.frames_iff _).mp frames).1
  obtain ⟨before, unmarked⟩ :=
    (framesExactly_named vocabulary tokens).getElem?_of_kind found (by simp [isWord])
  exact unmarked (.inl (.inl ⟨token, before, frames⟩))

namespace Framer

/-- The standard rules with a vocabulary, materials and a preposition. -/
def withMaterials (vocabulary : Vocabulary) (materials : List Text) (preposition : Text) : Framer :=
  { vocabulary, rules := Rule.withMaterials materials preposition }

variable {vocabulary : Vocabulary} {materials : List Text} {preposition : Text} {line : Text}

theorem frameLine_withMaterials (lookedInto : isPassthrough commentMarker line = false) :
    (withMaterials vocabulary materials preposition).frameLine line =
      render ((MaterialQuality.ofWords materials preposition).rewrite
        (named vocabulary (tokenize commentMarker line))).1 := by
  have before := lineTokens_tokenize lookedInto
  have afterScan := (framesExactly_scanned vocabulary _).lineTokens before
  have afterTarget := (framesExactly_targeted vocabulary _).lineTokens afterScan
  have afterOperand := (framesExactly_named_of_targeted vocabulary _).lineTokens afterTarget
  calc (withMaterials vocabulary materials preposition).frameLine line
      = ((Rule.materialQuality (.ofWords materials preposition)).correctLine
          ((Rule.keywordOperand .standard).correctLine
            ((Rule.assignmentTarget .standard).correctLine
              (render (scanned vocabulary (tokenize commentMarker line)))).1).1).1 := rfl
    _ = ((Rule.materialQuality (.ofWords materials preposition)).correctLine
          ((Rule.keywordOperand .standard).correctLine
            (render (targeted vocabulary (tokenize commentMarker line)))).1).1 := by
          rw [Rule.correctLine_fst (.assignmentTarget .standard), afterScan.tokenize_render]
          rfl
    _ = ((Rule.materialQuality (.ofWords materials preposition)).correctLine
          (render (named vocabulary (tokenize commentMarker line)))).1 := by
          rw [Rule.correctLine_fst (.keywordOperand .standard), afterTarget.tokenize_render]
          rfl
    _ = _ := by
          rw [Rule.correctLine_fst, afterOperand.tokenize_render]
          rfl

theorem stripsExactly_frameLine (lookedInto : isPassthrough commentMarker line = false)
    (canonical : ∀ material ∈ (MaterialQuality.ofWords materials preposition).materials,
      CanonicalWord material) :
    (MaterialQuality.ofWords materials preposition).StripsExactly .ofRun
        (named vocabulary (tokenize commentMarker line))
        (tokenize commentMarker
          ((withMaterials vocabulary materials preposition).frameLine line)) ∧
      isPassthrough commentMarker
        ((withMaterials vocabulary materials preposition).frameLine line) = false := by
  have before := (framesExactly_named vocabulary _).lineTokens (lineTokens_tokenize lookedInto)
  have stripping := MaterialQuality.stripsExactly_map_reread before.wellFormed canonical
  have after := stripping.lineTokens before canonical
  rw [frameLine_withMaterials lookedInto, ← render_map_reread, after.tokenize_render]
  exact ⟨stripping, after.isPassthrough_render⟩

end Framer

end NameFraming
