import NameFraming.Proofs.Token.Position

/-! Rewrites of single tokens. Putting delimiters around some words keeps a token list well formed
and does not touch its plain text, so that a line is cut in the same places before and after. -/

namespace NameFraming

section ByIndex

variable {tokens : List Token}

theorem TokensWellFormed.at (wellFormed : TokensWellFormed tokens) {index : Nat} {token : Token}
    (found : tokens[index]? = some token) : token.WellFormed :=
  wellFormed.each token (List.mem_of_getElem? found)

theorem TokensWellFormed.mayPrecede (wellFormed : TokensWellFormed tokens) {index : Nat}
    {left right : Token} (found : tokens[index]? = some left)
    (next : tokens[index + 1]? = some right) : left.MayPrecede right := by
  obtain ⟨bound, rfl⟩ := List.getElem?_eq_some_iff.mp next
  obtain ⟨_, rfl⟩ := List.getElem?_eq_some_iff.mp found
  exact List.isChain_iff_getElem.mp wellFormed.adjacent index bound

theorem tokensWellFormed_of_index
    (each : ∀ (index : Nat) (token : Token), tokens[index]? = some token → token.WellFormed)
    (adjacent : ∀ (index : Nat) (left right : Token), tokens[index]? = some left →
      tokens[index + 1]? = some right → left.MayPrecede right) :
    TokensWellFormed tokens := by
  refine ⟨fun token member => ?_, List.isChain_iff_getElem.mpr fun index bound => ?_⟩
  · obtain ⟨index, found⟩ := List.getElem?_of_mem member
    exact each index token found
  · exact adjacent index _ _ (List.getElem?_eq_getElem (by omega)) (List.getElem?_eq_getElem bound)

end ByIndex

/-- Two lists have the same length and the same plain text at the same places. -/
structure SamePlain (tokens after : List Token) : Prop where
  length : after.length = tokens.length
  plain : ∀ (index : Nat) (token : Token), token.kind = .other →
    (after[index]? = some token ↔ tokens[index]? = some token)

namespace SamePlain

variable {tokens middle after : List Token}

theorem symm (same : SamePlain tokens after) : SamePlain after tokens :=
  ⟨same.length.symm, fun index token other => (same.plain index token other).symm⟩

theorem trans (first : SamePlain tokens middle) (second : SamePlain middle after) :
    SamePlain tokens after :=
  ⟨second.length.trans first.length, fun index token other =>
    (second.plain index token other).trans (first.plain index token other)⟩

theorem blankAt_iff (same : SamePlain tokens after) {index : Nat} :
    BlankAt after index ↔ BlankAt tokens index := by
  constructor
  · intro ⟨token, found, blank⟩
    exact ⟨token, (same.plain index token (Token.isBlank_iff.mp blank).1).mp found, blank⟩
  · intro ⟨token, found, blank⟩
    exact ⟨token, (same.plain index token (Token.isBlank_iff.mp blank).1).mpr found, blank⟩

theorem getElem?_eq_none_iff (same : SamePlain tokens after) {index : Nat} :
    after[index]? = none ↔ tokens[index]? = none := by
  rw [List.getElem?_eq_none_iff, List.getElem?_eq_none_iff, same.length]

theorem tokensPassed (same : SamePlain tokens after) (passed : TokensPassed tokens) :
    TokensPassed after := by
  cases tokens with
  | nil =>
      rw [List.eq_nil_of_length_eq_zero same.length]
      trivial
  | cons first rest =>
      cases after with
      | nil => cases same.length
      | cons after afterRest =>
          obtain ⟨other, decided⟩ := passed
          have sameFirst := (same.plain 0 first other).mpr rfl
          cases sameFirst
          have sameLength : afterRest.length = rest.length := by simpa using same.length
          refine ⟨other, decided.imp_right fun ⟨blank, last⟩ => ⟨blank, ?_⟩⟩
          rw [last] at sameLength
          exact List.eq_nil_of_length_eq_zero sameLength

theorem tokensPassed_iff (same : SamePlain tokens after) :
    TokensPassed after ↔ TokensPassed tokens :=
  ⟨same.symm.tokensPassed, same.tokensPassed⟩

end SamePlain

namespace Token

theorem word_wellFormed {word : Text} (name : isBareName word = true) :
    WellFormed ⟨.word, word⟩ := by
  obtain ⟨nonempty, wordChars, notDecimal, _⟩ := isBareName_iff.mp name
  exact ⟨nonempty, wordChars, notDecimal⟩

theorem space_wellFormed : WellFormed ⟨.other, [' ']⟩ :=
  ⟨by simp, by simpa using isPlain_of_isBlank (by decide)⟩

theorem framed_wellFormed {token : Token}
    (wordChars : ∀ c ∈ token.text, isWordChar c = true) : token.framed.WellFormed := by
  refine ⟨rfl, ?_⟩
  rw [List.dropLast_concat]
  intro inside
  have wordChar := wordChars delimiter inside
  simp at wordChar

@[simp] theorem framed_terminated (token : Token) : token.framed.terminated = true := by
  simp [framed, frameWord, terminated, List.getLast?_cons]

@[simp] theorem framed_inner (token : Token) : token.framed.inner = token.text := by
  simp only [inner, framed_terminated, if_true]
  simp [framed, frameWord]

end Token

/-- The words at the marked indices get their delimiters, and nothing else changes. -/
structure FramesExactly (marked : Nat → Prop) (tokens after : List Token) : Prop where
  frames : ∀ index, marked index → after[index]? = tokens[index]?.map Token.framed
  keeps : ∀ index, ¬ marked index → after[index]? = tokens[index]?
  names : ∀ index, marked index → NameAt tokens index

namespace FramesExactly

variable {marked alsoMarked : Nat → Prop} {tokens middle after : List Token} {index : Nat}
  {token : Token}

theorem refl (none : ∀ index, ¬ marked index) : FramesExactly marked tokens tokens :=
  ⟨fun index some => absurd some (none index), fun _ _ => rfl,
    fun index some => absurd some (none index)⟩

theorem congr (framing : FramesExactly marked tokens after)
    (same : ∀ index, marked index ↔ alsoMarked index) :
    FramesExactly alsoMarked tokens after := by
  rwa [← funext fun index => propext (same index)]

theorem modify (name : NameAt tokens index) :
    FramesExactly (· = index) tokens (tokens.modify index Token.framed) := by
  refine ⟨?_, ?_, ?_⟩
  · intro other same
    rw [same, List.getElem?_modify_eq]
    rfl
  · intro other differs
    rw [List.getElem?_modify_ne _ _ (Ne.symm differs)]
  · intro other same
    rw [same]
    exact name

theorem getElem?_of_kind (framing : FramesExactly marked tokens after)
    (found : after[index]? = some token) (kind : token.kind ≠ .delimited) :
    tokens[index]? = some token ∧ ¬ marked index := by
  by_cases mark : marked index
  · rw [framing.frames index mark] at found
    obtain ⟨_, _, rfl⟩ := Option.map_eq_some_iff.mp found
    exact absurd rfl kind
  · exact ⟨framing.keeps index mark ▸ found, mark⟩

theorem not_marked_of_kind (framing : FramesExactly marked tokens after)
    (found : tokens[index]? = some token) (kind : token.kind ≠ .word) : ¬ marked index := by
  intro mark
  obtain ⟨name, sameFound, isWord, _⟩ := framing.names index mark
  cases found.symm.trans sameFound
  exact kind isWord

theorem getElem?_eq (framing : FramesExactly marked tokens after)
    (found : tokens[index]? = some token) :
    after[index]? = some token ∨
      marked index ∧ token.kind = .word ∧ isBareName token.text = true ∧
        after[index]? = some token.framed := by
  by_cases mark : marked index
  · obtain ⟨name, sameFound, isWord, bare⟩ := framing.names index mark
    cases found.symm.trans sameFound
    exact .inr ⟨mark, isWord, bare, by rw [framing.frames index mark, found]; rfl⟩
  · exact .inl (framing.keeps index mark ▸ found)

theorem samePlain (framing : FramesExactly marked tokens after) : SamePlain tokens after := by
  refine ⟨?_, fun index token other => ⟨fun found => ?_, fun found => ?_⟩⟩
  · have sameEnd : ∀ index : Nat, after[index]? = none ↔ tokens[index]? = none := by
      intro index
      by_cases mark : marked index
      · rw [framing.frames index mark, Option.map_eq_none_iff]
      · rw [framing.keeps index mark]
    simp only [List.getElem?_eq_none_iff] at sameEnd
    exact Nat.le_antisymm ((sameEnd _).mpr (Nat.le_refl _)) ((sameEnd _).mp (Nat.le_refl _))
  · exact (framing.getElem?_of_kind found (by simp [other])).1
  · rw [framing.keeps index (framing.not_marked_of_kind found (by simp [other]))]
    exact found

theorem wordAt_iff (framing : FramesExactly marked tokens after) {word : Text} :
    WordAt after index word ↔ WordAt tokens index word ∧ ¬ marked index := by
  constructor
  · intro ⟨token, found, reads⟩
    have isWord := (Token.isWord_iff.mp reads).1
    obtain ⟨before, unmarked⟩ := framing.getElem?_of_kind found (by simp [isWord])
    exact ⟨⟨token, before, reads⟩, unmarked⟩
  · intro ⟨⟨token, found, reads⟩, unmarked⟩
    exact ⟨token, by rw [framing.keeps index unmarked]; exact found, reads⟩

theorem nameAt_iff (framing : FramesExactly marked tokens after) :
    NameAt after index ↔ NameAt tokens index ∧ ¬ marked index := by
  constructor
  · intro ⟨token, found, isWord, bare⟩
    obtain ⟨before, unmarked⟩ := framing.getElem?_of_kind found (by simp [isWord])
    exact ⟨⟨token, before, isWord, bare⟩, unmarked⟩
  · intro ⟨⟨token, found, isWord, bare⟩, unmarked⟩
    exact ⟨token, by rw [framing.keeps index unmarked]; exact found, isWord, bare⟩

theorem standsAt (framing : FramesExactly marked tokens after) {phrase : Phrase} {start : Nat}
    (stands : phrase.standsAt after start = true) : phrase.standsAt tokens start = true := by
  rw [Phrase.standsAt_iff] at stands ⊢
  intro n word inPhrase
  obtain ⟨reads, blank⟩ := stands n word inPhrase
  exact ⟨(framing.wordAt_iff.mp reads).1,
    fun later => framing.samePlain.blankAt_iff.mp (blank later)⟩

/-- What a second rewrite frames was left by the first. -/
theorem trans (first : FramesExactly marked tokens middle)
    (second : FramesExactly alsoMarked middle after) :
    FramesExactly (fun index => marked index ∨ alsoMarked index) tokens after := by
  refine ⟨fun index either => ?_, fun index neither => ?_, fun index either => ?_⟩
  · obtain mark | mark := either
    · have unmarked : ¬ alsoMarked index := by
        intro again
        exact (first.nameAt_iff.mp (second.names index again)).2 mark
      rw [second.keeps index unmarked, first.frames index mark]
    · rw [second.frames index mark,
        first.keeps index (first.nameAt_iff.mp (second.names index mark)).2]
  · rw [not_or] at neither
    rw [second.keeps index neither.2, first.keeps index neither.1]
  · obtain mark | mark := either
    · exact first.names index mark
    · exact (first.nameAt_iff.mp (second.names index mark)).1

theorem tokensWellFormed (framing : FramesExactly marked tokens after)
    (wellFormed : TokensWellFormed tokens) : TokensWellFormed after := by
  have before : ∀ {index : Nat} {token : Token}, after[index]? = some token →
      ∃ old, tokens[index]? = some old ∧
        (token = old ∨ old.kind = .word ∧ isBareName old.text = true ∧ token = old.framed) := by
    intro index token found
    cases old : tokens[index]? with
    | none => rw [framing.samePlain.getElem?_eq_none_iff.mpr old] at found; cases found
    | some oldToken =>
        obtain kept | ⟨_, isWord, bare, framed⟩ := framing.getElem?_eq old
        · exact ⟨oldToken, rfl, .inl (Option.some.inj (found.symm.trans kept))⟩
        · exact ⟨oldToken, rfl, .inr ⟨isWord, bare, Option.some.inj (found.symm.trans framed)⟩⟩
  refine tokensWellFormed_of_index ?_ ?_
  · intro index token found
    obtain ⟨old, oldFound, rfl | ⟨_, bare, rfl⟩⟩ := before found
    · exact wellFormed.at oldFound
    · exact Token.framed_wellFormed (isBareName_iff.mp bare).2.1
  · intro index left right foundLeft foundRight
    obtain ⟨oldLeft, oldFoundLeft, leftCases⟩ := before foundLeft
    obtain ⟨oldRight, oldFoundRight, rightCases⟩ := before foundRight
    obtain ⟨terminated, oneRun, onePlain⟩ := wellFormed.mayPrecede oldFoundLeft oldFoundRight
    obtain rfl | ⟨_, _, rfl⟩ := leftCases
    · obtain rfl | ⟨_, _, rfl⟩ := rightCases
      · exact ⟨terminated, oneRun, onePlain⟩
      · exact ⟨terminated, by simp [Token.framed, Token.isRun], by simp [Token.framed]⟩
    · exact ⟨Token.framed_terminated _, by simp [Token.framed, Token.isRun],
        by simp [Token.framed]⟩

end FramesExactly

end NameFraming
