import NameFraming.Correction.MaterialQuality
import NameFraming.Proofs.Text.Uppercasing
import NameFraming.Proofs.Token.Framing

/-! Materials, by their indices. The rule looks back at what it has already rewritten, so that one
material can serve as the preposition of the next; what it makes of a line is the one list that
agrees with itself in this way. A material may be a digit run, and is then read as a number
afterwards. -/

namespace NameFraming

/-- The form in which words are configured. -/
structure CanonicalWord (word : Text) : Prop where
  nonempty : word ≠ []
  wordChars : ∀ c ∈ word, isWordChar c = true
  upper : NameFraming.upper word = word

namespace Token

/-- How a token is read from its text again: a bare word may turn out to be a number. -/
def reread (token : Token) : Token :=
  if token.kind = .word then .ofRun token.text else token

@[simp] theorem text_reread (token : Token) : token.reread.text = token.text := by
  unfold reread
  split <;> rfl

theorem reread_of_wellFormed {token : Token} (wellFormed : token.WellFormed) :
    token.reread = token := by
  unfold reread
  split
  · rename_i isWord
    obtain ⟨kind, text⟩ := token
    cases isWord
    have mixed : ¬ text.all isDecimal = true :=
      fun decimal => wellFormed.2.2 (List.all_eq_true.mp decimal)
    rw [ofRun, if_neg mixed]
  · rfl

theorem reread_eq_of_kind_word {token : Token} (isWord : token.reread.kind = .word) :
    token.reread = token := by
  unfold reread at isWord ⊢
  split at isWord
  · rename_i wasWord
    rw [if_pos wasWord]
    unfold ofRun at isWord ⊢
    split at isWord
    · cases isWord
    · rename_i mixed
      rw [if_neg mixed, ← wasWord]
  · rename_i notWord
    rw [if_neg notWord]

theorem text_eq_frameWord {token : Token} (wellFormed : token.WellFormed)
    (delimited : token.kind = .delimited) (closed : token.terminated = true) :
    token.text = frameWord token.inner := by
  obtain ⟨kind, text⟩ := token
  cases delimited
  cases text with
  | nil => cases wellFormed
  | cons first body =>
      obtain ⟨rfl, _⟩ := wellFormed
      have last : body.getLast? = some delimiter := by
        cases body with
        | nil => simp [terminated] at closed
        | cons next rest => simpa [terminated, List.getLast?_cons] using closed
      rw [inner, if_pos rfl, if_pos closed, frameWord, List.drop_one, List.tail_cons,
        List.dropLast_append_getLast? delimiter last]

end Token

theorem render_map_reread (tokens : List Token) :
    render (tokens.map Token.reread) = render tokens := by
  induction tokens with
  | nil => rfl
  | cons first rest ih => rw [List.map_cons, render_cons, render_cons, ih, Token.text_reread]

namespace MaterialQuality

variable {rule : MaterialQuality} {tokens after : List Token} {index : Nat}

theorem ofWords_of_canonical {materials : List Text} {preposition : Text}
    (canonical : ∀ material ∈ materials, CanonicalWord material)
    (isCanonical : CanonicalWord preposition) :
    ofWords materials preposition = ⟨materials, preposition⟩ := by
  have same : materials.map upper = materials :=
    (List.map_congr_left fun material member => (canonical material member).upper).trans
      (List.map_id _)
  rw [ofWords, same, isCanonical.upper]

/-- A framed material that loses its delimiters, when `after` is what the tokens become. -/
structure StripsAt (rule : MaterialQuality) (after tokens : List Token) (index : Nat) : Prop where
  two_le : 2 ≤ index
  material : ∃ token, tokens[index]? = some token ∧ token.kind = .delimited ∧
    token.terminated = true ∧ token.inner ∈ rule.materials
  gap : BlankAt tokens (index - 1)
  preposition : WordAt after (index - 2) rule.preposition
  free : ∀ next, tokens[index + 1]? = some next → next.isRun = false

/-- The materials that lose their delimiters do, and nothing else changes. -/
structure StripsExactly (rule : MaterialQuality) (bare : Text → Token)
    (tokens after : List Token) : Prop where
  strips : ∀ index, rule.StripsAt after tokens index →
    after[index]? = tokens[index]?.map fun token => bare token.inner
  keeps : ∀ index, ¬ rule.StripsAt after tokens index → after[index]? = tokens[index]?

/-- Each index looks back at earlier ones only, so there is one list of this kind. -/
theorem StripsExactly.unique {bare : Text → Token} {other : List Token}
    (first : rule.StripsExactly bare tokens after)
    (second : rule.StripsExactly bare tokens other) : after = other := by
  apply List.ext_getElem?
  intro index
  induction index using Nat.strongRecOn with
  | ind index ih =>
      have sameStrips : rule.StripsAt after tokens index ↔ rule.StripsAt other tokens index := by
        have sameWord : 2 ≤ index → (WordAt after (index - 2) rule.preposition ↔
            WordAt other (index - 2) rule.preposition) := by
          intro late
          rw [WordAt, WordAt, ih (index - 2) (by omega)]
        constructor
        · intro strips
          exact ⟨strips.two_le, strips.material, strips.gap,
            (sameWord strips.two_le).mp strips.preposition, strips.free⟩
        · intro strips
          exact ⟨strips.two_le, strips.material, strips.gap,
            (sameWord strips.two_le).mpr strips.preposition, strips.free⟩
      by_cases strips : rule.StripsAt after tokens index
      · rw [first.strips index strips, second.strips index (sameStrips.mp strips)]
      · rw [first.keeps index strips, second.keeps index fun also => strips (sameStrips.mpr also)]

theorem canEndBefore_drop_iff :
    canEndBefore (tokens.drop index) = true ↔
      ∀ next, tokens[index]? = some next → next.isRun = false := by
  have first : tokens[index]? = (tokens.drop index)[0]? := by simp
  rw [first]
  cases tokens.drop index with
  | nil => simp [canEndBefore]
  | cons next later => simp [canEndBefore, Token.isRun]

theorem length_rewriteAfter (leading gap : Token) :
    (rule.rewriteAfter leading gap tokens).1.length = tokens.length := by
  induction tokens generalizing leading gap with
  | nil => rfl
  | cons token rest ih =>
      rw [rewriteAfter]
      split <;> simp [ih]

/-- The decision at each index, which is taken on the two tokens in front of it as they have become.
-/
theorem getElem?_rewriteAfter (leading gap : Token) {token : Token}
    (found : tokens[index]? = some token) :
    ∃ before between,
      (leading :: gap :: (rule.rewriteAfter leading gap tokens).1)[index]? = some before ∧
      (leading :: gap :: (rule.rewriteAfter leading gap tokens).1)[index + 1]? = some between ∧
      (rule.rewriteAfter leading gap tokens).1[index]? =
        some (if rule.strips before between token (tokens.drop (index + 1)) then
          ⟨.word, token.inner⟩ else token) := by
  induction tokens generalizing leading gap index with
  | nil => simp at found
  | cons first rest ih =>
      cases index with
      | zero =>
          cases found
          refine ⟨leading, gap, rfl, rfl, ?_⟩
          rw [rewriteAfter, List.drop_one, List.tail_cons]
          split <;> rfl
      | succ index =>
          rw [rewriteAfter]
          split
          · exact ih gap ⟨.word, first.inner⟩ found
          · exact ih gap first found

theorem length_rewrite (rule : MaterialQuality) :
    (rule.rewrite tokens).1.length = tokens.length := by
  unfold rewrite
  split
  · simp [length_rewriteAfter]
  · rfl

theorem strips_iff {leading gap token : Token} {rest : List Token} :
    rule.strips leading gap token rest = true ↔
      token.kind = .delimited ∧ token.terminated = true ∧ token.inner ∈ rule.materials ∧
        gap.isBlank = true ∧ leading.isWord rule.preposition = true ∧ canEndBefore rest = true := by
  simp [strips, and_assoc]

theorem getElem?_rewrite_lt_two (early : index < 2) :
    (rule.rewrite tokens).1[index]? = tokens[index]? := by
  unfold rewrite
  split
  · match index with
    | 0 => rfl
    | 1 => rfl
  · rfl

theorem getElem?_rewrite (rule : MaterialQuality) {token : Token}
    (found : tokens[index + 2]? = some token) :
    ∃ before between, (rule.rewrite tokens).1[index]? = some before ∧
      (rule.rewrite tokens).1[index + 1]? = some between ∧
      (rule.rewrite tokens).1[index + 2]? =
        some (if rule.strips before between token (tokens.drop (index + 3)) then
          ⟨.word, token.inner⟩ else token) := by
  match tokens with
  | [] => simp at found
  | [_] => simp at found
  | leading :: gap :: rest => exact getElem?_rewriteAfter leading gap found

theorem getElem?_rewrite_cases (rule : MaterialQuality) (tokens : List Token) (index : Nat) :
    (rule.rewrite tokens).1[index]? = tokens[index]? ∨
      ∃ token, tokens[index]? = some token ∧ token.kind = .delimited ∧
        (rule.rewrite tokens).1[index]? = some ⟨.word, token.inner⟩ := by
  match index with
  | 0 => exact .inl (getElem?_rewrite_lt_two (by omega))
  | 1 => exact .inl (getElem?_rewrite_lt_two (by omega))
  | index + 2 =>
      cases found : tokens[index + 2]? with
      | none =>
          rw [List.getElem?_eq_none_iff, ← length_rewrite rule,
            ← List.getElem?_eq_none_iff] at found
          exact .inl found
      | some token =>
          obtain ⟨before, between, _, _, decided⟩ := getElem?_rewrite rule found
          by_cases strips : rule.strips before between token (tokens.drop (index + 3)) = true
          · rw [if_pos strips] at decided
            exact .inr ⟨token, rfl, (strips_iff.mp strips).1, decided⟩
          · rw [if_neg strips] at decided
            exact .inl decided

theorem blankAt_rewrite_iff (rule : MaterialQuality) :
    BlankAt (rule.rewrite tokens).1 index ↔ BlankAt tokens index := by
  unfold BlankAt
  rcases getElem?_rewrite_cases rule tokens index with same | ⟨token, found, delimited, bare⟩
  · rw [same]
  · rw [found, bare]
    simp [Token.isBlank, delimited]

theorem stripsAt_iff {token before between : Token} (found : tokens[index + 2]? = some token)
    (isBefore : (rule.rewrite tokens).1[index]? = some before)
    (isBetween : (rule.rewrite tokens).1[index + 1]? = some between) :
    rule.StripsAt (rule.rewrite tokens).1 tokens (index + 2) ↔
      rule.strips before between token (tokens.drop (index + 3)) = true := by
  have gap : BlankAt tokens (index + 1) ↔ between.isBlank = true := by
    rw [← blankAt_rewrite_iff rule, BlankAt, isBetween]
    simp
  have preposition : WordAt (rule.rewrite tokens).1 index rule.preposition ↔
      before.isWord rule.preposition = true := by
    rw [WordAt, isBefore]
    simp
  rw [strips_iff, canEndBefore_drop_iff, ← gap, ← preposition]
  constructor
  · intro strips
    obtain ⟨material, sameFound, delimited, closed, member⟩ := strips.material
    cases found.symm.trans sameFound
    exact ⟨delimited, closed, member, strips.gap, strips.preposition, strips.free⟩
  · intro conditions
    obtain ⟨delimited, closed, member, isGap, isPreposition, free⟩ := conditions
    exact ⟨by omega, ⟨token, found, delimited, closed, member⟩, isGap, isPreposition, free⟩

theorem stripsExactly_rewrite (rule : MaterialQuality) (tokens : List Token) :
    rule.StripsExactly (fun inner => ⟨.word, inner⟩) tokens (rule.rewrite tokens).1 := by
  constructor
  · intro index strips
    obtain ⟨token, found, _⟩ := strips.material
    have late := strips.two_le
    obtain ⟨index, rfl⟩ : ∃ before, index = before + 2 := ⟨index - 2, by omega⟩
    obtain ⟨before, between, isBefore, isBetween, decided⟩ := getElem?_rewrite rule found
    rw [decided, if_pos ((stripsAt_iff found isBefore isBetween).mp strips), found]
    rfl
  · intro index kept
    match index with
    | 0 => exact getElem?_rewrite_lt_two (by omega)
    | 1 => exact getElem?_rewrite_lt_two (by omega)
    | index + 2 =>
        cases found : tokens[index + 2]? with
        | none =>
            rw [List.getElem?_eq_none_iff, ← length_rewrite rule,
              ← List.getElem?_eq_none_iff] at found
            exact found
        | some token =>
            obtain ⟨before, between, isBefore, isBetween, decided⟩ :=
              getElem?_rewrite rule found
            rw [decided, if_neg fun strips =>
              kept ((stripsAt_iff found isBefore isBetween).mpr strips)]

theorem rewrite_of_count_eq_zero (none : (rule.rewrite tokens).2 = 0) :
    (rule.rewrite tokens).1 = tokens := by
  have ofAfter : ∀ rest leading gap, (rule.rewriteAfter leading gap rest).2 = 0 →
      (rule.rewriteAfter leading gap rest).1 = rest := by
    intro rest
    induction rest with
    | nil => intro leading gap _; rfl
    | cons token rest ih =>
        intro leading gap none
        rw [rewriteAfter] at none ⊢
        split at none
        · cases none
        · rename_i kept
          rw [if_neg kept]
          exact congrArg (token :: ·) (ih _ _ none)
  unfold rewrite at none ⊢
  split at none
  · simp only [ofAfter _ _ _ none]
  · rfl

/-- No word of a line is read as a digit run, so a preposition that is one is never found. -/
theorem preposition_not_decimal (wellFormed : TokensWellFormed tokens)
    (reads : WordAt (rule.rewrite tokens).1 index rule.preposition) :
    ¬ rule.preposition.all isDecimal = true := by
  induction index using Nat.strongRecOn with
  | ind index ih =>
      by_cases strips : rule.StripsAt (rule.rewrite tokens).1 tokens index
      · have late := strips.two_le
        exact ih (index - 2) (by omega) strips.preposition
      · obtain ⟨token, found, isWord⟩ := reads
        rw [(stripsExactly_rewrite rule tokens).keeps index strips] at found
        obtain ⟨kind, same⟩ := Token.isWord_iff.mp isWord
        have shape := wellFormed.at found
        rw [Token.WellFormed, kind] at shape
        intro decimal
        rw [← same] at decimal
        exact shape.2.2 (List.all_eq_true.mp (all_isDecimal_of_upper decimal))

theorem wordAt_map_reread_iff (wellFormed : TokensWellFormed tokens)
    (canonical : ∀ material ∈ rule.materials, CanonicalWord material) :
    WordAt ((rule.rewrite tokens).1.map Token.reread) index rule.preposition ↔
      WordAt (rule.rewrite tokens).1 index rule.preposition := by
  constructor
  · intro ⟨token, found, isWord⟩
    rw [List.getElem?_map] at found
    obtain ⟨written, sameFound, rfl⟩ := Option.map_eq_some_iff.mp found
    rw [Token.reread_eq_of_kind_word (Token.isWord_iff.mp isWord).1] at isWord
    exact ⟨written, sameFound, isWord⟩
  · intro reads
    have mixed := preposition_not_decimal wellFormed reads
    obtain ⟨token, found, isWord⟩ := reads
    have settled : token.reread = token := by
      by_cases strips : rule.StripsAt (rule.rewrite tokens).1 tokens index
      · obtain ⟨material, isMaterial, _, _, member⟩ := strips.material
        rw [(stripsExactly_rewrite rule tokens).strips index strips, isMaterial] at found
        cases found
        have same := (Token.isWord_iff.mp isWord).2
        rw [(canonical _ member).upper] at same
        rw [← same] at mixed
        rw [Token.reread, if_pos rfl, Token.ofRun, if_neg mixed]
      · rw [(stripsExactly_rewrite rule tokens).keeps index strips] at found
        exact Token.reread_of_wellFormed (wellFormed.at found)
    refine ⟨token, ?_, isWord⟩
    rw [List.getElem?_map, found, Option.map_some, settled]

/-- How the rewritten line is read: materials are bare now, and some of them are numbers. -/
theorem stripsExactly_map_reread (wellFormed : TokensWellFormed tokens)
    (canonical : ∀ material ∈ rule.materials, CanonicalWord material) :
    rule.StripsExactly .ofRun tokens ((rule.rewrite tokens).1.map Token.reread) := by
  have written := stripsExactly_rewrite rule tokens
  have sameStrips : ∀ index,
      rule.StripsAt ((rule.rewrite tokens).1.map Token.reread) tokens index ↔
        rule.StripsAt (rule.rewrite tokens).1 tokens index := by
    intro index
    constructor
    · intro strips
      exact ⟨strips.two_le, strips.material, strips.gap,
        (wordAt_map_reread_iff wellFormed canonical).mp strips.preposition, strips.free⟩
    · intro strips
      exact ⟨strips.two_le, strips.material, strips.gap,
        (wordAt_map_reread_iff wellFormed canonical).mpr strips.preposition, strips.free⟩
  constructor
  · intro index strips
    rw [List.getElem?_map, written.strips index ((sameStrips index).mp strips), Option.map_map]
    rfl
  · intro index kept
    rw [List.getElem?_map, written.keeps index fun strips => kept ((sameStrips index).mpr strips)]
    cases found : tokens[index]? with
    | none => rfl
    | some token => rw [Option.map_some, Token.reread_of_wellFormed (wellFormed.at found)]

namespace StripsExactly

variable (stripping : rule.StripsExactly .ofRun tokens after)
include stripping

theorem getElem?_cases {token : Token} (found : tokens[index]? = some token) :
    (¬ rule.StripsAt after tokens index ∧ after[index]? = some token) ∨
      (rule.StripsAt after tokens index ∧ token.kind = .delimited ∧ token.terminated = true ∧
        token.inner ∈ rule.materials ∧ after[index]? = some (.ofRun token.inner)) := by
  by_cases strips : rule.StripsAt after tokens index
  · obtain ⟨material, sameFound, delimited, closed, member⟩ := strips.material
    cases found.symm.trans sameFound
    refine .inr ⟨strips, delimited, closed, member, ?_⟩
    rw [stripping.strips index strips, found]
    rfl
  · exact .inl ⟨strips, by rw [stripping.keeps index strips]; exact found⟩

theorem getElem?_eq_none_iff : after[index]? = none ↔ tokens[index]? = none := by
  by_cases strips : rule.StripsAt after tokens index
  · rw [stripping.strips index strips, Option.map_eq_none_iff]
  · rw [stripping.keeps index strips]

theorem samePlain : SamePlain tokens after := by
  have sameEnd : ∀ index : Nat, after[index]? = none ↔ tokens[index]? = none :=
    fun _ => stripping.getElem?_eq_none_iff
  constructor
  · simp only [List.getElem?_eq_none_iff] at sameEnd
    exact Nat.le_antisymm ((sameEnd _).mpr (Nat.le_refl _)) ((sameEnd _).mp (Nat.le_refl _))
  · intro index token other
    cases found : tokens[index]? with
    | none => rw [(sameEnd index).mpr found]
    | some old =>
        rcases stripping.getElem?_cases found with ⟨_, kept⟩ | ⟨_, delimited, _, _, bare⟩
        · rw [kept]
        · rw [bare]
          constructor
          · intro same
            cases same
            have run := Token.isRun_ofRun old.inner
            simp [Token.isRun, other] at run
          · intro same
            cases same
            simp [delimited] at other

/-- White space stands before a stripped material and neither a word nor a number behind it, so the
bare word does not run into anything. -/
theorem tokensWellFormed (wellFormed : TokensWellFormed tokens)
    (canonical : ∀ material ∈ rule.materials, CanonicalWord material) :
    TokensWellFormed after := by
  have before : ∀ {index : Nat} {token : Token}, after[index]? = some token →
      ∃ old, tokens[index]? = some old ∧ (token = old ∨ rule.StripsAt after tokens index ∧
        old.inner ∈ rule.materials ∧ old.kind = .delimited ∧ token = .ofRun old.inner) := by
    intro index token found
    cases old : tokens[index]? with
    | none => rw [stripping.getElem?_eq_none_iff.mpr old] at found; cases found
    | some oldToken =>
        rcases stripping.getElem?_cases old with ⟨_, kept⟩ | ⟨strips, delimited, _, member, bare⟩
        · exact ⟨oldToken, rfl, .inl (Option.some.inj (found.symm.trans kept))⟩
        · exact ⟨oldToken, rfl, .inr ⟨strips, member, delimited,
            Option.some.inj (found.symm.trans bare)⟩⟩
  apply tokensWellFormed_of_index
  · intro index token found
    obtain ⟨old, oldFound, rfl | ⟨_, member, _, rfl⟩⟩ := before found
    · exact wellFormed.at oldFound
    · exact Token.ofRun_wellFormed (canonical _ member).nonempty (canonical _ member).wordChars
  · intro index left right foundLeft foundRight
    obtain ⟨oldLeft, oldFoundLeft, leftCases⟩ := before foundLeft
    obtain ⟨oldRight, oldFoundRight, rightCases⟩ := before foundRight
    obtain ⟨closed, oneRun, onePlain⟩ := wellFormed.mayPrecede oldFoundLeft oldFoundRight
    rcases rightCases with rfl | ⟨rightStrips, _, _, rfl⟩
    · rcases leftCases with rfl | ⟨leftStrips, _, _, rfl⟩
      · exact ⟨closed, oneRun, onePlain⟩
      · have noRun := leftStrips.free right oldFoundRight
        refine ⟨?_, by simp [noRun], ?_⟩ <;>
          unfold Token.ofRun <;>
          split <;>
          simp [Token.terminated]
    · obtain ⟨gap, gapFound, blank⟩ := rightStrips.gap
      rw [Nat.add_sub_cancel] at gapFound
      cases oldFoundLeft.symm.trans gapFound
      have other := (Token.isBlank_iff.mp blank).1
      rcases leftCases with rfl | ⟨_, _, delimited, _⟩
      · refine ⟨closed, by simp [Token.isRun, other], ?_⟩
        unfold Token.ofRun
        split <;> simp
      · rw [delimited] at other
        cases other

end StripsExactly

end MaterialQuality

end NameFraming
