import NameFraming.Proofs.Framer.SecondRun

/-! For every way to be unstable, a line that a second run changes. Each of these lines is a few
words with a space between every two of them, one of which is a material that the first run strips.
-/

namespace NameFraming

/-- Words with a space between every two of them. -/
def spaced : List Text → List Token
  | [] => []
  | [last] => [⟨.word, last⟩]
  | first :: rest => ⟨.word, first⟩ :: ⟨.other, [' ']⟩ :: spaced rest

section Words

variable {vocabulary : Vocabulary} {word : Text}

theorem staysBare_of_isKeyword (name : isBareName word = true)
    (reserved : vocabulary.isKeyword word = true) : StaysBare vocabulary word :=
  ⟨Token.word_wellFormed name, fun _ => reserved⟩

theorem staysBare_of_lowercase
    (lowercase : (!word.isEmpty && word.all isWordChar && !word.all isDecimal &&
      !isBareName word) = true) : StaysBare vocabulary word := by
  simp only [Bool.and_eq_true, Bool.not_eq_true', List.isEmpty_eq_false_iff, List.all_eq_true,
    List.all_eq_false] at lowercase
  obtain ⟨⟨⟨nonempty, wordChars⟩, c, member, notDecimal⟩, noName⟩ := lowercase
  refine ⟨⟨nonempty, wordChars, fun decimal => notDecimal (decimal c member)⟩, fun name => ?_⟩
  rw [noName] at name
  cases name

end Words

section Spaced

variable {vocabulary : Vocabulary} {words : List Text} {index n : Nat}

theorem getElem?_spaced_even (words : List Text) (n : Nat) :
    (spaced words)[2 * n]? = words[n]?.map (Token.mk .word) := by
  fun_induction spaced words generalizing n with
  | case1 => rfl
  | case2 last => cases n <;> rfl
  | case3 first rest _ ih =>
      cases n with
      | zero => rfl
      | succ n => exact ih n

theorem getElem?_spaced_odd (within : n + 1 < words.length) :
    (spaced words)[2 * n + 1]? = some ⟨.other, [' ']⟩ := by
  fun_induction spaced words generalizing n with
  | case1 => simp at within
  | case2 last => simp at within
  | case3 first rest _ ih =>
      cases n with
      | zero => rfl
      | succ n => exact ih (by simpa using within)

theorem length_spaced (words : List Text) : (spaced words).length = 2 * words.length - 1 := by
  fun_induction spaced words with
  | case1 => rfl
  | case2 last => rfl
  | case3 first rest nonempty ih =>
      have more : 0 < rest.length := List.length_pos_iff.mpr nonempty
      simp only [List.length_cons, ih]
      omega

theorem getElem?_spaced_cases {token : Token} (found : (spaced words)[index]? = some token) :
    (∃ n word, index = 2 * n ∧ words[n]? = some word ∧ token = ⟨.word, word⟩) ∨
      ∃ n, index = 2 * n + 1 ∧ token = ⟨.other, [' ']⟩ := by
  have bound := (List.getElem?_eq_some_iff.mp found).1
  rw [length_spaced] at bound
  obtain ⟨n, even | odd⟩ : ∃ n, index = 2 * n ∨ index = 2 * n + 1 := ⟨index / 2, by omega⟩
  · rw [even, getElem?_spaced_even] at found
    obtain ⟨word, inWords, rfl⟩ := Option.map_eq_some_iff.mp found
    exact .inl ⟨n, word, even, inWords, rfl⟩
  · rw [odd, getElem?_spaced_odd (by omega)] at found
    exact .inr ⟨n, odd, (Option.some.inj found).symm⟩

theorem tokensWellFormed_spaced (bare : ∀ word ∈ words, StaysBare vocabulary word) :
    TokensWellFormed (spaced words) := by
  apply tokensWellFormed_of_index
  · intro index token found
    rcases getElem?_spaced_cases found with ⟨n, word, _, inWords, rfl⟩ | ⟨n, _, rfl⟩
    · exact (bare word (List.mem_of_getElem? inWords)).wellFormed
    · exact Token.space_wellFormed
  · intro index left right foundLeft foundRight
    rcases getElem?_spaced_cases foundLeft with ⟨n, word, even, _, rfl⟩ | ⟨n, odd, rfl⟩
    · rcases getElem?_spaced_cases foundRight with ⟨m, _, alsoEven, _⟩ | ⟨_, _, rfl⟩
      · omega
      · exact ⟨rfl, by simp [Token.isRun], by simp⟩
    · rcases getElem?_spaced_cases foundRight with ⟨_, _, _, _, rfl⟩ | ⟨m, alsoOdd, _⟩
      · exact ⟨rfl, by simp [Token.isRun], by simp⟩
      · omega

theorem not_blankAt_spaced : ¬ BlankAt (spaced words) 0 := by
  intro ⟨token, found, blank⟩
  rcases getElem?_spaced_cases found with ⟨_, _, _, _, rfl⟩ | ⟨_, odd, _⟩
  · cases blank
  · omega

theorem lineTokens_spaced (bare : ∀ word ∈ words, StaysBare vocabulary word)
    (nonempty : words ≠ []) : LineTokens (spaced words) := by
  refine ⟨tokensWellFormed_spaced bare, ?_⟩
  intro passed
  obtain ⟨first, rest, rfl⟩ := List.exists_cons_of_ne_nil nonempty
  cases rest <;> cases passed.1

theorem newline_not_mem_spaced (bare : ∀ word ∈ words, StaysBare vocabulary word) :
    '\n' ∉ render (spaced words) := by
  intro member
  obtain ⟨token, inSpaced, inText⟩ := mem_render_iff.mp member
  obtain ⟨index, found⟩ := List.getElem?_of_mem inSpaced
  rcases getElem?_spaced_cases found with ⟨n, word, _, inWords, rfl⟩ | ⟨n, _, rfl⟩
  · have wordChars := (bare word (List.mem_of_getElem? inWords)).wellFormed.2.1
    exact absurd (wordChars _ inText) (by decide)
  · simp at inText

theorem not_identifierAt_spaced (bare : ∀ word ∈ words, StaysBare vocabulary word) :
    ¬ Scanner.IdentifierAt { vocabulary } (spaced words) index := by
  intro ⟨token, found, frames⟩
  obtain ⟨isWord, name, notReserved⟩ := (Scanner.frames_iff _).mp frames
  rcases getElem?_spaced_cases found with ⟨n, word, _, inWords, rfl⟩ | ⟨n, _, rfl⟩
  · have reserved := (bare word (List.mem_of_getElem? inWords)).reserved name
    exact absurd (reserved.symm.trans notReserved) (by decide)
  · cases isWord

theorem wordAt_spaced {word : Text} (found : words[n]? = some word) :
    WordAt (spaced words) (2 * n) (upper word) :=
  ⟨⟨.word, word⟩, by rw [getElem?_spaced_even, found]; rfl, Token.isWord_iff.mpr ⟨rfl, rfl⟩⟩

theorem blankAt_spaced (within : n + 1 < words.length) : BlankAt (spaced words) (2 * n + 1) :=
  ⟨⟨.other, [' ']⟩, getElem?_spaced_odd within, by decide⟩

theorem placedAt_spaced {first second third : Text} (name : isBareName first = true)
    (placed : upper second = "PLACED".toList) (assigned : upper third = "AS".toList) :
    PlacedAt (spaced [first, second, third]) 0 := by
  refine ⟨.inr ⟨not_blankAt_spaced, rfl⟩, ⟨_, rfl, rfl, name⟩, ⟨_, rfl, by decide⟩, ?_,
    ⟨_, rfl, by decide⟩, ?_⟩
  · exact ⟨_, rfl, Token.isWord_iff.mpr ⟨rfl, placed⟩⟩
  · exact ⟨_, rfl, Token.isWord_iff.mpr ⟨rfl, assigned⟩⟩

theorem not_placedAt_spaced {second : Text} (found : words[1]? = some second)
    (differs : upper second ≠ "PLACED".toList) : ¬ PlacedAt (spaced words) index := by
  intro target
  rcases target.first with ⟨blank, _⟩ | ⟨_, rfl⟩
  · exact not_blankAt_spaced blank
  · exact differs (wordAt_unique (wordAt_spaced found) target.placed)

theorem putTogetherAt_spaced {front : List Text} {put together : Text}
    (isPut : upper put = "PUT".toList) (isTogether : upper together = "TOGETHER".toList) :
    PutTogetherAt (spaced (front ++ [put, together, "ANOTHER".toList]))
      (2 * (front.length + 2)) := by
  have wordAt : ∀ {word : Text} (n : Nat), [put, together, "ANOTHER".toList][n]? = some word →
      WordAt (spaced (front ++ [put, together, "ANOTHER".toList])) (2 * (front.length + n))
        (upper word) := by
    intro word n found
    apply wordAt_spaced
    rw [List.getElem?_append_right (by omega), Nat.add_sub_cancel_left, found]
  have blankAt : ∀ n : Nat, n < 2 →
      BlankAt (spaced (front ++ [put, together, "ANOTHER".toList]))
        (2 * (front.length + n) + 1) := by
    intro n early
    apply blankAt_spaced
    simp only [List.length_append, List.length_cons, List.length_nil]
    omega
  have last := wordAt 2 rfl
  refine ⟨by omega, ?_, blankAt 0 (by omega), ?_, blankAt 1 (by omega), last, ?_, .inl ?_⟩
  · exact isPut ▸ wordAt 0 rfl
  · exact isTogether ▸ wordAt 1 rfl
  · refine ⟨⟨.word, "ANOTHER".toList⟩, ?_, rfl, by decide⟩
    rw [getElem?_spaced_even, List.getElem?_append_right (by omega), Nat.add_sub_cancel_left]
    rfl
  · rw [List.getElem?_eq_none_iff, length_spaced]
    simp only [List.length_append, List.length_cons, List.length_nil]
    omega

theorem even_of_wordAt_spaced {word : Text} (reads : WordAt (spaced words) index word) :
    index % 2 = 0 := by
  obtain ⟨token, found, isWord⟩ := reads
  rcases getElem?_spaced_cases found with ⟨n, _, even, _⟩ | ⟨_, _, rfl⟩
  · omega
  · cases isWord

end Spaced

/-- Some line is not finished after one run. -/
def Framer.ChangesTwice (framer : Framer) : Prop :=
  ∃ line, '\n' ∉ line ∧ framer.frameLine (framer.frameLine line) ≠ framer.frameLine line

section Runs

variable {vocabulary : Vocabulary} {tokens : List Token} {words : List Text} {index n : Nat}

theorem scanned_eq_self (none : ∀ index, ¬ Scanner.IdentifierAt { vocabulary } tokens index) :
    scanned vocabulary tokens = tokens :=
  (framesExactly_scanned vocabulary tokens).eq_of_none none

theorem targeted_eq_self (none : ∀ index, ¬ Scanner.IdentifierAt { vocabulary } tokens index)
    (noTarget : ∀ index, ¬ PlacedAt tokens index) : targeted vocabulary tokens = tokens := by
  have before := scanned_eq_self none
  have framing := framesExactly_targeted vocabulary tokens
  rw [before] at framing
  exact framing.eq_of_none fun index target => noTarget index (targetAt_standard_iff.mp target)

theorem named_eq_self (none : ∀ index, ¬ Scanner.IdentifierAt { vocabulary } tokens index)
    (noTarget : ∀ index, ¬ PlacedAt tokens index)
    (noOperand : ∀ index, ¬ PutTogetherAt tokens index) : named vocabulary tokens = tokens := by
  have before := targeted_eq_self none noTarget
  have framing := framesExactly_named_of_targeted vocabulary tokens
  rw [before] at framing
  exact framing.eq_of_none fun index operand =>
    noOperand index (isOperandAt_standard_iff.mp operand)

theorem becomesName_of_placedAt (bare : ∀ word ∈ words, StaysBare vocabulary word)
    (target : PlacedAt (spaced words) index) : BecomesName vocabulary (spaced words) index := by
  refine .inl (.inr ?_)
  rw [scanned_eq_self fun _ => not_identifierAt_spaced bare, targetAt_standard_iff]
  exact target

theorem becomesName_of_putTogetherAt (bare : ∀ word ∈ words, StaysBare vocabulary word)
    (noTarget : ∀ index, ¬ PlacedAt (spaced words) index)
    (operand : PutTogetherAt (spaced words) index) :
    BecomesName vocabulary (spaced words) index := by
  refine .inr ?_
  rw [targeted_eq_self (fun _ => not_identifierAt_spaced bare) noTarget, isOperandAt_standard_iff]
  exact operand

/-- The line with one word framed: it breaks every shape that the first run could find. -/
theorem named_modify_spaced (bare : ∀ word ∈ words, StaysBare vocabulary word)
    (short : words.length ≤ 4) (early : n < 2) (name : NameAt (spaced words) (2 * (n + 1))) :
    named vocabulary ((spaced words).modify (2 * (n + 1)) Token.framed) =
      (spaced words).modify (2 * (n + 1)) Token.framed := by
  have framing := FramesExactly.modify name
  apply named_eq_self
  · intro index ⟨token, found, frames⟩
    have isWord := ((Scanner.frames_iff _).mp frames).1
    have before := (framing.getElem?_of_kind found (by simp [isWord])).1
    exact not_identifierAt_spaced bare ⟨token, before, frames⟩
  · intro index target
    have unindented : index = 0 := by
      rcases target.first with ⟨blank, _⟩ | ⟨_, zero⟩
      · exact absurd (framing.samePlain.blankAt_iff.mp blank) not_blankAt_spaced
      · exact zero
    have second := (framing.wordAt_iff.mp target.placed).2
    have third := (framing.wordAt_iff.mp target.assigned).2
    omega
  · intro index operand
    have late := operand.four_le
    have even := even_of_wordAt_spaced (framing.wordAt_iff.mp operand.operand).1
    have first := (framing.wordAt_iff.mp operand.put).2
    have second := (framing.wordAt_iff.mp operand.together).2
    obtain ⟨⟨_, found, _⟩, third⟩ := framing.wordAt_iff.mp operand.operand
    have bound := (List.getElem?_eq_some_iff.mp found).1
    rw [length_spaced] at bound
    omega

theorem rewrite_modify_spaced {rule : MaterialQuality} {material word : Text}
    (found : words[n + 1]? = some material) (name : isBareName material = true)
    (member : material ∈ rule.materials) (before : words[n]? = some word)
    (reads : upper word = rule.preposition) :
    (rule.rewrite ((spaced words).modify (2 * (n + 1)) Token.framed)).1 = spaced words := by
  have bound : n + 1 < words.length := (List.getElem?_eq_some_iff.mp found).1
  have wordFound : (spaced words)[2 * (n + 1)]? = some ⟨.word, material⟩ := by
    rw [getElem?_spaced_even, found]
    rfl
  have framing := FramesExactly.modify ⟨_, wordFound, rfl, name⟩
  have framed := framing.frames (2 * (n + 1)) rfl
  rw [wordFound, Option.map_some] at framed
  have strips : rule.StripsAt (spaced words)
      ((spaced words).modify (2 * (n + 1)) Token.framed) (2 * (n + 1)) := by
    refine ⟨by omega, ⟨_, framed, rfl, by simp, by simpa⟩, ?_, ?_, ?_⟩
    · exact framing.samePlain.blankAt_iff.mpr (blankAt_spaced bound)
    · rw [← reads]
      exact wordAt_spaced before
    · intro next nextFound
      rw [framing.keeps _ (by omega)] at nextFound
      rcases getElem?_spaced_cases nextFound with ⟨m, _, even, _⟩ | ⟨_, _, rfl⟩
      · omega
      · rfl
  refine (MaterialQuality.stripsExactly_rewrite rule _).unique ⟨?_, ?_⟩
  · intro index stripsAt
    by_cases here : index = 2 * (n + 1)
    · rw [here, framed, wordFound, Option.map_some, Token.framed_inner]
    · obtain ⟨token, tokenFound, delimited, _⟩ := stripsAt.material
      rw [framing.keeps index here] at tokenFound
      rcases getElem?_spaced_cases tokenFound with ⟨_, _, _, _, rfl⟩ | ⟨_, _, rfl⟩ <;>
        cases delimited
  · intro index kept
    have elsewhere : index ≠ 2 * (n + 1) := by
      intro here
      rw [here] at kept
      exact kept strips
    exact (framing.keeps index elsewhere).symm

end Runs

section Lines

variable {vocabulary : Vocabulary} {materials : List Text} {preposition : Text}

/-- A line that still holds a name to be framed, and not to be stripped at once, changes. -/
theorem frameLine_render_ne {tokens : List Token} {index : Nat} (before : LineTokens tokens)
    (canonical : ∀ material ∈ (MaterialQuality.ofWords materials preposition).materials,
      CanonicalWord material)
    (name : BecomesName vocabulary tokens index)
    (kept : ¬ (MaterialQuality.ofWords materials preposition).StripsAt tokens
      (named vocabulary tokens) index) :
    (Framer.withMaterials vocabulary materials preposition).frameLine (render tokens) ≠
      render tokens := by
  intro same
  have stripping := (@Framer.stripsExactly_frameLine vocabulary materials preposition
    (render tokens) before.isPassthrough_render canonical).1
  rw [same, before.tokenize_render] at stripping
  have framing := framesExactly_named vocabulary tokens
  obtain ⟨token, found, isWord, _⟩ := framing.names index name
  have unchanged := stripping.keeps index kept
  rw [framing.frames index name, found] at unchanged
  have sameKind := congrArg Token.kind (Option.some.inj unchanged)
  rw [isWord] at sameKind
  cases sameKind

variable (canonical : ∀ material ∈ materials, CanonicalWord material)
  (same : MaterialQuality.ofWords materials preposition = ⟨materials, preposition⟩)
include canonical same

/-- The first run strips a material, and the second one frames a name. -/
theorem changesTwice_of_words {words : List Text} {material word : Text} {n index : Nat}
    (bare : ∀ word ∈ words, StaysBare vocabulary word) (short : words.length ≤ 4) (early : n < 2)
    (found : words[n + 1]? = some material) (name : isBareName material = true)
    (member : material ∈ materials) (before : words[n]? = some word)
    (reads : upper word = preposition) (becomes : BecomesName vocabulary (spaced words) index)
    (kept : ¬ MaterialQuality.StripsAt ⟨materials, preposition⟩ (spaced words)
      (named vocabulary (spaced words)) index) :
    (Framer.withMaterials vocabulary materials preposition).ChangesTwice := by
  have nonempty : words ≠ [] := by
    intro empty
    simp [empty] at found
  have line := lineTokens_spaced bare nonempty
  have wordFound : (spaced words)[2 * (n + 1)]? = some ⟨.word, material⟩ := by
    rw [getElem?_spaced_even, found]
    rfl
  have isName : NameAt (spaced words) (2 * (n + 1)) := ⟨_, wordFound, rfl, name⟩
  have framing := FramesExactly.modify isName
  have framedLine := framing.lineTokens line
  have firstRun : (Framer.withMaterials vocabulary materials preposition).frameLine
      (render ((spaced words).modify (2 * (n + 1)) Token.framed)) = render (spaced words) := by
    rw [Framer.frameLine_withMaterials framedLine.isPassthrough_render, framedLine.tokenize_render,
      named_modify_spaced bare short early isName, same,
      rewrite_modify_spaced found name member before reads]
  refine ⟨render ((spaced words).modify (2 * (n + 1)) Token.framed), ?_, ?_⟩
  · intro member
    rcases mem_render_of_rewritten framing.rewritten member with isDelimiter | inWords
    · cases isDelimiter
    · exact newline_not_mem_spaced bare inWords
  · rw [firstRun]
    exact frameLine_render_ne line (same ▸ canonical) becomes (same ▸ kept)

/-- The line is `OF |PLACED| as`, with a reserved word for the preposition. -/
theorem changesTwice_of_marker {word : Text}
    (reclaimed : Reclaimed vocabulary ⟨materials, preposition⟩ "PLACED".toList)
    (name : isBareName word = true) (reserved : vocabulary.isKeyword word = true)
    (reads : upper word = preposition) :
    (Framer.withMaterials vocabulary materials preposition).ChangesTwice := by
  have bare : ∀ other ∈ [word, "PLACED".toList, "as".toList], StaysBare vocabulary other := by
    simp only [List.forall_mem_cons, List.not_mem_nil, false_imp_iff, implies_true, and_true]
    exact ⟨staysBare_of_isKeyword name reserved, staysBare_of_isKeyword (by decide) reclaimed.2,
      staysBare_of_lowercase (by decide)⟩
  have target := placedAt_spaced name (by decide : upper "PLACED".toList = _)
    (by decide : upper "as".toList = _)
  refine changesTwice_of_words canonical same bare (by simp) (by omega : 0 < 2) rfl (by decide)
    reclaimed.1 rfl reads (becomesName_of_placedAt bare target) ?_
  intro strips
  have late := strips.two_le
  omega

/-- The line is `AS placed |AS|`. -/
theorem changesTwice_of_markerEnd
    (reclaimed : Reclaimed vocabulary ⟨materials, preposition⟩ "AS".toList)
    (isPlaced : preposition = "PLACED".toList) :
    (Framer.withMaterials vocabulary materials preposition).ChangesTwice := by
  have bare : ∀ other ∈ ["AS".toList, "placed".toList, "AS".toList],
      StaysBare vocabulary other := by
    simp only [List.forall_mem_cons, List.not_mem_nil, false_imp_iff, implies_true, and_true]
    exact ⟨staysBare_of_isKeyword (by decide) reclaimed.2, staysBare_of_lowercase (by decide),
      staysBare_of_isKeyword (by decide) reclaimed.2⟩
  have target := placedAt_spaced (by decide : isBareName "AS".toList = true)
    (by decide : upper "placed".toList = _) (by decide : upper "AS".toList = _)
  have reads : upper "placed".toList = preposition := by
    rw [isPlaced]
    decide
  refine changesTwice_of_words canonical same bare (by simp) (by omega : 1 < 2) rfl (by decide)
    reclaimed.1 rfl reads (becomesName_of_placedAt bare target) ?_
  intro strips
  have late := strips.two_le
  omega

/-- The line is `put |TOGETHER| ANOTHER`. -/
theorem changesTwice_of_operatorEnd
    (reclaimed : Reclaimed vocabulary ⟨materials, preposition⟩ "TOGETHER".toList)
    (operand : vocabulary.isKeyword "ANOTHER".toList = true)
    (isPut : preposition = "PUT".toList) :
    (Framer.withMaterials vocabulary materials preposition).ChangesTwice := by
  have bare : ∀ other ∈ ["put".toList, "TOGETHER".toList, "ANOTHER".toList],
      StaysBare vocabulary other := by
    simp only [List.forall_mem_cons, List.not_mem_nil, false_imp_iff, implies_true, and_true]
    exact ⟨staysBare_of_lowercase (by decide), staysBare_of_isKeyword (by decide) reclaimed.2,
      staysBare_of_isKeyword (by decide) operand⟩
  have found : PutTogetherAt (spaced ["put".toList, "TOGETHER".toList, "ANOTHER".toList]) 4 :=
    @putTogetherAt_spaced [] _ _ (by decide) (by decide)
  have becomes :=
    becomesName_of_putTogetherAt bare (fun _ => not_placedAt_spaced rfl (by decide)) found
  have reads : upper "put".toList = preposition := by
    rw [isPut]
    decide
  refine changesTwice_of_words canonical same bare (by simp) (by omega : 0 < 2) rfl (by decide)
    reclaimed.1 rfl reads becomes ?_
  intro strips
  have differs : "TOGETHER".toList ≠ "PUT".toList := by decide
  exact differs ((wordAt_unique found.together strips.preposition).trans isPut)

/-- The line is `of |PUT| together ANOTHER`, with any word for the preposition that stays bare. -/
theorem changesTwice_of_operator {word : Text}
    (reclaimed : Reclaimed vocabulary ⟨materials, preposition⟩ "PUT".toList)
    (operand : vocabulary.isKeyword "ANOTHER".toList = true) (stays : StaysBare vocabulary word)
    (reads : upper word = preposition)
    (noQuality : ¬ (preposition = "TOGETHER".toList ∧ "ANOTHER".toList ∈ materials)) :
    (Framer.withMaterials vocabulary materials preposition).ChangesTwice := by
  have bare : ∀ other ∈ [word, "PUT".toList, "together".toList, "ANOTHER".toList],
      StaysBare vocabulary other := by
    simp only [List.forall_mem_cons, List.not_mem_nil, false_imp_iff, implies_true, and_true]
    exact ⟨stays, staysBare_of_isKeyword (by decide) reclaimed.2,
      staysBare_of_lowercase (by decide), staysBare_of_isKeyword (by decide) operand⟩
  have found : PutTogetherAt
      (spaced [word, "PUT".toList, "together".toList, "ANOTHER".toList]) 6 :=
    @putTogetherAt_spaced [word] _ _ (by decide) (by decide)
  have becomes :=
    becomesName_of_putTogetherAt bare (fun _ => not_placedAt_spaced rfl (by decide)) found
  refine changesTwice_of_words canonical same bare (by simp) (by omega : 0 < 2) rfl (by decide)
    reclaimed.1 rfl reads becomes ?_
  intro strips
  have isTogether := wordAt_unique strips.preposition found.together
  obtain ⟨token, tokenFound, _, _, member⟩ := strips.material
  rw [(framesExactly_named vocabulary _).frames 6 becomes] at tokenFound
  cases tokenFound
  exact noQuality ⟨isTogether, member⟩

theorem changesTwice_of_unstable (unstable : Unstable vocabulary ⟨materials, preposition⟩) :
    (Framer.withMaterials vocabulary materials preposition).ChangesTwice := by
  cases unstable with
  | marker word reclaimed name reserved reads =>
      exact changesTwice_of_marker canonical same reclaimed name reserved reads
  | markerEnd reclaimed isPlaced =>
      exact changesTwice_of_markerEnd canonical same reclaimed isPlaced
  | operator word reclaimed operand bare reads noQuality =>
      exact changesTwice_of_operator canonical same reclaimed operand bare reads noQuality
  | operatorEnd reclaimed operand isPut =>
      exact changesTwice_of_operatorEnd canonical same reclaimed operand isPut

end Lines

end NameFraming
