import NameFraming.Proofs.Framer.Specification
import NameFraming.Proofs.Text.Lowercase

/-! Which configurations honour their own phrase. The material behind the preposition loses its
delimiters only when the preposition is still bare by then; a preposition that is a name of its own
is framed by the scan, and the phrase is not seen any more. -/

namespace NameFraming

/-- A framed material behind the preposition, into which no word or number runs. -/
structure MaterialQuality.PhraseAt (rule : MaterialQuality) (tokens : List Token) (index : Nat)
    (material : Text) : Prop where
  member : material ∈ rule.materials
  found : tokens[index]? = some ⟨.delimited, frameWord material⟩
  quality : QualifierAt rule.preposition tokens index
  free : ∀ next, tokens[index + 1]? = some next → next.isRun = false

/-- Every phrase on a line that is looked into reads as a quality on the framed line. -/
def Framer.Honours (framer : Framer) (rule : MaterialQuality) : Prop :=
  ∀ (line : Text) (index : Nat) (material : Text), '\n' ∉ line →
    isPassthrough commentMarker line = false →
    rule.PhraseAt (tokenize commentMarker line) index material →
    (tokenize commentMarker (framer.transform line))[index]? = some (.ofRun material)

section Words

variable {tokens : List Token} {index : Nat} {word : Text}

/-- A word that is not a bare name itself is not one in any spelling. -/
theorem isBareName_of_wordAt (canonical : CanonicalWord word) (reads : WordAt tokens index word)
    (name : NameAt tokens index) : isBareName word = true := by
  obtain ⟨token, found, isWord⟩ := reads
  obtain ⟨_, sameFound, _, bare⟩ := name
  cases found.symm.trans sameFound
  have form := (Token.isWord_iff.mp isWord).2
  obtain ⟨_, _, notDecimal, noLowercase⟩ := isBareName_iff.mp bare
  rw [isBareName_iff]
  refine ⟨canonical.nonempty, canonical.wordChars, ?_, ?_⟩
  · rw [← form, ← List.all_eq_true]
    exact fun decimal => notDecimal (List.all_eq_true.mp (all_isDecimal_of_upper decimal))
  · intro c member
    rw [Bool.eq_false_iff]
    intro isLower
    obtain ⟨d, inText, alsoLower⟩ := exists_isLowercase_of_upper (form ▸ member) isLower
    rw [noLowercase d inText] at alsoLower
    cases alsoLower

end Words

namespace MaterialQuality

variable {vocabulary : Vocabulary} {rule : MaterialQuality} {tokens after : List Token}
  {index : Nat} {material : Text}

/-- Neither correction looks at the preposition of a phrase. -/
theorem PhraseAt.identifierAt_of_becomesName (phrase : rule.PhraseAt tokens index material)
    (becomes : BecomesName vocabulary tokens (index - 2)) :
    Scanner.IdentifierAt { vocabulary } tokens (index - 2) := by
  have late := phrase.quality.two_le
  have scan := framesExactly_scanned vocabulary tokens
  have toTargets := scan.trans (framesExactly_targeted vocabulary tokens)
  rcases becomes with (identifier | target) | operand
  · exact identifier
  · -- The marker of an assignment would stand where the material does.
    have earlier := targetAt_standard_iff.mp (target.of_framesExactly scan).1
    obtain ⟨token, found, isWord⟩ := earlier.placed
    rw [Nat.sub_add_cancel late, phrase.found] at found
    cases found
    cases (Token.isWord_iff.mp isWord).1
  · have bound := (List.getElem?_eq_some_iff.mp phrase.found).1
    have gap : BlankAt tokens (index - 2 + 1) := by
      rw [(by omega : index - 2 + 1 = index - 1)]
      exact phrase.quality.gap
    refine absurd operand (KeywordOperand.standard.not_isOperandAt_of_continues
      (toTargets.samePlain.blankAt_iff.mpr gap) ?_)
    rw [toTargets.samePlain.length]
    omega

theorem PhraseAt.stripsAt_iff (phrase : rule.PhraseAt tokens index material) :
    rule.StripsAt after (named vocabulary tokens) index ↔
      WordAt after (index - 2) rule.preposition := by
  have framing := framesExactly_named vocabulary tokens
  have closed := Token.framed_terminated ⟨.word, material⟩
  have inner := Token.framed_inner ⟨.word, material⟩
  constructor
  · exact StripsAt.preposition
  · intro reads
    refine ⟨phrase.quality.two_le, ⟨_, ?_, rfl, closed, ?_⟩,
      framing.samePlain.blankAt_iff.mpr phrase.quality.gap, reads, ?_⟩
    · exact (framing.keeps index (framing.not_marked_of_kind phrase.found (by simp))).trans
        phrase.found
    · exact inner ▸ phrase.member
    · intro next nextFound
      obtain ⟨old, oldFound, _⟩ := framing.rewritten (index + 1) next nextFound
      rcases framing.getElem?_eq oldFound with kept | ⟨_, _, _, framed⟩
      · cases nextFound.symm.trans kept
        exact phrase.free _ oldFound
      · cases nextFound.symm.trans framed
        rfl

theorem PhraseAt.getElem?_eq_ofRun_iff (phrase : rule.PhraseAt tokens index material)
    (stripping : rule.StripsExactly .ofRun (named vocabulary tokens) after) :
    after[index]? = some (.ofRun material) ↔ WordAt after (index - 2) rule.preposition := by
  have framing := framesExactly_named vocabulary tokens
  have kept : (named vocabulary tokens)[index]? = some (Token.framed ⟨.word, material⟩) :=
    (framing.keeps index (framing.not_marked_of_kind phrase.found (by simp))).trans phrase.found
  rw [← @PhraseAt.stripsAt_iff vocabulary _ _ after _ _ phrase]
  constructor
  · intro bare
    by_contra stays
    rw [stripping.keeps index stays, kept] at bare
    have sameLength := congrArg (List.length ∘ Token.text) (Option.some.inj bare)
    simp only [Function.comp_apply, Token.framed, frameWord, Token.text_ofRun, List.length_cons,
      List.length_append] at sameLength
    omega
  · intro strips
    rw [stripping.strips index strips, kept, Option.map_some, Token.framed_inner]

end MaterialQuality

/-- The preposition and the framed material alone on their line. -/
def phraseTokens (preposition material : Text) : List Token :=
  [⟨.word, preposition⟩, ⟨.other, [' ']⟩, ⟨.delimited, frameWord material⟩]

section Alone

variable {preposition material : Text}

theorem lineTokens_phraseTokens (name : isBareName preposition = true)
    (canonical : CanonicalWord material) : LineTokens (phraseTokens preposition material) := by
  have framed := @Token.framed_wellFormed ⟨.word, material⟩ canonical.wordChars
  refine ⟨⟨?_, ?_⟩, fun passed => by cases passed.1⟩
  · simp only [phraseTokens, List.forall_mem_cons, List.not_mem_nil, false_imp_iff, implies_true,
      and_true]
    exact ⟨Token.word_wellFormed name, Token.space_wellFormed, framed⟩
  · simp [phraseTokens, Token.MayPrecede, Token.terminated, Token.isRun]

theorem newline_not_mem_phraseTokens (isCanonical : CanonicalWord preposition)
    (canonical : CanonicalWord material) :
    '\n' ∉ render (phraseTokens preposition material) := by
  have inWord : ∀ {word : Text}, CanonicalWord word → '\n' ∉ word :=
    fun canonical member => absurd (canonical.wordChars _ member) (by decide)
  have notDelimiter : '\n' ≠ delimiter := by decide
  simp [phraseTokens, render, frameWord, inWord isCanonical, inWord canonical, notDelimiter]

theorem phraseAt_phraseTokens {materials : List Text} (isCanonical : CanonicalWord preposition)
    (member : material ∈ materials) :
    MaterialQuality.PhraseAt ⟨materials, preposition⟩ (phraseTokens preposition material) 2
      material := by
  refine ⟨member, rfl, ⟨Nat.le_refl 2, ⟨_, rfl, by decide⟩, ⟨_, rfl, ?_⟩⟩, ?_⟩
  · exact Token.isWord_iff.mpr ⟨rfl, isCanonical.upper⟩
  · intro next found
    cases found

end Alone

namespace Framer

section WithMaterials

variable {vocabulary : Vocabulary} {materials : List Text} {preposition : Text}
  (canonical : ∀ material ∈ materials, CanonicalWord material)
  (isCanonical : CanonicalWord preposition)
include canonical isCanonical

theorem stripsExactly_transform {line : Text} (noBreak : '\n' ∉ line)
    (lookedInto : isPassthrough commentMarker line = false) :
    MaterialQuality.StripsExactly ⟨materials, preposition⟩ .ofRun
      (named vocabulary (tokenize commentMarker line))
      (tokenize commentMarker
        ((withMaterials vocabulary materials preposition).transform line)) := by
  have same := MaterialQuality.ofWords_of_canonical canonical isCanonical
  have stripping := (@stripsExactly_frameLine vocabulary materials preposition line lookedInto
    (same ▸ canonical)).1
  rwa [same, ← transform_of_newline_not_mem _ noBreak] at stripping

theorem honours_of_kept
    (kept : vocabulary.isKeyword preposition = true ∨ isBareName preposition = false) :
    (withMaterials vocabulary materials preposition).Honours ⟨materials, preposition⟩ := by
  intro line index material noBreak lookedInto phrase
  have framing := framesExactly_named vocabulary (tokenize commentMarker line)
  have stripping := @stripsExactly_transform vocabulary _ _ canonical isCanonical _ noBreak
    lookedInto
  have stays : ¬ BecomesName vocabulary (tokenize commentMarker line) (index - 2) := by
    intro becomes
    rcases kept with reserved | noName
    · exact not_identifierAt_of_wordAt reserved isCanonical.upper phrase.quality.preposition
        (phrase.identifierAt_of_becomesName becomes)
    · rw [isBareName_of_wordAt isCanonical phrase.quality.preposition
        (framing.names _ becomes)] at noName
      cases noName
  obtain ⟨token, found, isWord⟩ := framing.wordAt_iff.mpr ⟨phrase.quality.preposition, stays⟩
  rw [phrase.getElem?_eq_ofRun_iff stripping]
  rcases stripping.getElem?_cases found with ⟨_, same⟩ | ⟨_, delimited, _⟩
  · exact ⟨token, same, isWord⟩
  · rw [(Token.isWord_iff.mp isWord).1] at delimited
    cases delimited

/-- A preposition that is a name of its own: alone on its line the phrase loses to the scan. -/
theorem not_honours_of_name {material : Text} (member : material ∈ materials)
    (name : isBareName preposition = true)
    (notReserved : vocabulary.isKeyword preposition = false) :
    ¬ (withMaterials vocabulary materials preposition).Honours ⟨materials, preposition⟩ := by
  intro honours
  have line := lineTokens_phraseTokens name (canonical material member)
  have noBreak := newline_not_mem_phraseTokens isCanonical (canonical material member)
  have phrase := phraseAt_phraseTokens isCanonical member
  have stripping := @stripsExactly_transform vocabulary _ _ canonical isCanonical _ noBreak
    line.isPassthrough_render
  have bare := honours _ 2 material noBreak line.isPassthrough_render
    (line.tokenize_render.symm ▸ phrase)
  rw [line.tokenize_render] at stripping
  obtain ⟨token, found, isWord⟩ := (phrase.getElem?_eq_ofRun_iff stripping).mp bare
  have identifier : Scanner.IdentifierAt { vocabulary } (phraseTokens preposition material) 0 :=
    ⟨_, rfl, (Scanner.frames_iff _).mpr ⟨rfl, name, notReserved⟩⟩
  rw [stripping.keeps 0 (fun strips => absurd strips.two_le (by decide)),
    (framesExactly_named vocabulary _).frames 0 (.inl (.inl identifier))] at found
  cases found
  cases (Token.isWord_iff.mp isWord).1

theorem honours_iff :
    (withMaterials vocabulary materials preposition).Honours ⟨materials, preposition⟩ ↔
      materials = [] ∨ vocabulary.isKeyword preposition = true ∨
        isBareName preposition = false := by
  constructor
  · intro honours
    by_contra none
    simp only [not_or, Bool.not_eq_true, Bool.not_eq_false] at none
    obtain ⟨some, notReserved, name⟩ := none
    obtain ⟨material, member⟩ := List.exists_mem_of_ne_nil _ some
    exact not_honours_of_name canonical isCanonical member name notReserved honours
  · intro settled
    rcases settled with rfl | kept
    · intro line index material _ _ phrase
      cases phrase.member
    · exact honours_of_kept canonical isCanonical kept

end WithMaterials

/-- For accepted settings: the phrase is honoured on all lines exactly when there is no material,
or the preposition is reserved or no name. On a line of its own, what decides is whether the
preposition is bare once the line is framed. -/
theorem honours_ofSettings_iff (settings : Settings) (accepted : settings.Accepted) :
    ((ofSettings settings).Honours
        ⟨settings.materialQualities, settings.materialPreposition⟩ ↔
      settings.materialQualities = [] ∨
        (ofSettings settings).isKeyword settings.materialPreposition = true ∨
        isBareName settings.materialPreposition = false) ∧
    ∀ (line : Text) (index : Nat) (material : Text), '\n' ∉ line →
      isPassthrough commentMarker line = false →
      MaterialQuality.PhraseAt ⟨settings.materialQualities, settings.materialPreposition⟩
        (tokenize commentMarker line) index material →
      ((tokenize commentMarker ((ofSettings settings).transform line))[index]? =
          some (.ofRun material) ↔
        WordAt (tokenize commentMarker ((ofSettings settings).transform line)) (index - 2)
          settings.materialPreposition) := by
  have canonical := accepted.canonical
  refine ⟨honours_iff canonical.materials canonical.preposition, ?_⟩
  intro line index material noBreak lookedInto phrase
  exact phrase.getElem?_eq_ofRun_iff
    (stripsExactly_transform canonical.materials canonical.preposition noBreak lookedInto)

/-- `USING` is not reserved, so that `USING |GOLD|` becomes `|USING| |GOLD|`. -/
theorem honours_ofSettings_iff_using :
    Settings.Accepted { materialPreposition := "USING".toList } ∧
      ¬ (ofSettings { materialPreposition := "USING".toList }).Honours
        ⟨MaterialQuality.standardMaterials, "USING".toList⟩ := by
  have accepted : Settings.Accepted { materialPreposition := "USING".toList } :=
    ⟨[("material_preposition", .text "USING".toList)], rfl⟩
  refine ⟨accepted, ?_⟩
  rw [(honours_ofSettings_iff _ accepted).1]
  intro settled
  rcases settled with empty | reserved | noName
  · cases empty
  · rcases Vocabulary.isKeyword_extended_iff.mp reserved with ⟨_, inExtra, _⟩ | standard
    · cases inExtra
    · obtain ⟨word, member, same⟩ := Vocabulary.isKeyword_ofWords_iff.mp
        (Vocabulary.isKeyword_without_iff.mp standard).1
      have differs : Vocabulary.reservedWords.all
          (fun word => upper word != upper "USING".toList) = true := by decide +kernel
      have other := List.all_eq_true.mp differs word member
      simp [same] at other
  · revert noName
    decide

end Framer

end NameFraming
