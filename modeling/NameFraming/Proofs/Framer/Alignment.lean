import NameFraming.Proofs.Framer.Passes
import NameFraming.Proofs.Settings

/-! Framing keeps the tokens of a line in their places: a name may get delimiters, and a material
behind the preposition may lose them. All else on the line is opaque. -/

namespace NameFraming

/-- Directly behind white space and the preposition. -/
structure QualifierAt (preposition : Text) (tokens : List Token) (index : Nat) : Prop where
  two_le : 2 ≤ index
  gap : BlankAt tokens (index - 1)
  preposition : WordAt tokens (index - 2) preposition

/-- How the tokens of a framed line lie to those of the line. -/
structure Aligned (rule : MaterialQuality) (before after : List Token) : Prop where
  length : after.length = before.length
  each : ∀ (index : Nat) (token : Token), before[index]? = some token →
    after[index]? = some token ∨
    token.kind = .word ∧ isBareName token.text = true ∧ after[index]? = some token.framed ∨
    ∃ material ∈ rule.materials, token = ⟨.delimited, frameWord material⟩ ∧
      (∃ bare, after[index]? = some bare ∧ bare.text = material) ∧
      QualifierAt rule.preposition after index

/-- Tokens that no framing may touch, when `after` is what the line becomes. -/
def IsOpaque (rule : MaterialQuality) (after : List Token) (index : Nat) (token : Token) : Prop :=
  token.kind = .quoted ∨ token.kind = .number ∨ token.kind = .other ∨ token.terminated = false ∨
    token.kind = .delimited ∧
      ¬ (token.inner ∈ rule.materials ∧ QualifierAt rule.preposition after index)

namespace Aligned

variable {rule : MaterialQuality} {before after : List Token}

theorem refl (rule : MaterialQuality) (tokens : List Token) : Aligned rule tokens tokens :=
  ⟨rfl, fun _ _ found => .inl found⟩

theorem getElem?_of_isOpaque (aligned : Aligned rule before after) {index : Nat} {token : Token}
    (found : before[index]? = some token) (isOpaque : IsOpaque rule after index token) :
    after[index]? = some token := by
  rcases aligned.each index token found with
    same | ⟨isWord, _, _⟩ | ⟨material, member, rfl, _, quality⟩
  · exact same
  · have closed : token.terminated = true := by
      unfold Token.terminated
      rw [isWord]
    simp [IsOpaque, isWord, closed] at isOpaque
  · have closed := Token.framed_terminated ⟨.word, material⟩
    have inner := Token.framed_inner ⟨.word, material⟩
    simp only [Token.framed] at closed inner
    simp [IsOpaque, closed, inner, member, quality] at isOpaque

end Aligned

namespace Framer

variable {vocabulary : Vocabulary} {rule : MaterialQuality} {tokens after : List Token}

theorem aligned_of_stripsExactly (before : LineTokens tokens)
    (stripping : rule.StripsExactly .ofRun (named vocabulary tokens) after) :
    Aligned rule tokens after := by
  have framing := framesExactly_named vocabulary tokens
  refine ⟨stripping.samePlain.length.trans framing.samePlain.length, ?_⟩
  intro index token found
  rcases framing.getElem?_eq found with kept | ⟨_, isWord, name, framed⟩
  · rcases stripping.getElem?_cases kept with
      ⟨_, same⟩ | ⟨strips, delimited, closed, member, bare⟩
    · exact .inl same
    · have text := Token.text_eq_frameWord (before.wellFormed.at found) delimited closed
      refine .inr (.inr ⟨token.inner, member, ?_, ⟨_, bare, rfl⟩, strips.two_le,
        stripping.samePlain.blankAt_iff.mpr strips.gap, strips.preposition⟩)
      rw [← text, ← delimited]
  · rcases stripping.getElem?_cases framed with ⟨_, same⟩ | ⟨_, _, _, _, bare⟩
    · exact .inr (.inl ⟨isWord, name, same⟩)
    · -- A name that is a material gets its delimiters and loses them again.
      have reread := Token.reread_of_wellFormed (before.wellFormed.at found)
      rw [Token.reread, if_pos isWord] at reread
      rw [Token.framed_inner, reread] at bare
      exact .inl bare

theorem qualifierAt_of_identifierAt {index : Nat} {token : Token}
    (stripping : rule.StripsExactly .ofRun (named vocabulary tokens) after)
    (found : after[index]? = some token)
    (frames : Scanner.frames { vocabulary } token = true) :
    token.text ∈ rule.materials ∧ QualifierAt rule.preposition after index := by
  by_cases strips : rule.StripsAt after (named vocabulary tokens) index
  · obtain ⟨old, oldFound, _, _, member⟩ := strips.material
    rw [stripping.strips index strips, oldFound] at found
    cases found
    exact ⟨member, strips.two_le, stripping.samePlain.blankAt_iff.mpr strips.gap,
      strips.preposition⟩
  · rw [stripping.keeps index strips] at found
    exact absurd ⟨token, found, frames⟩ not_identifierAt_named

/-- Every token of a line stays in its place, whatever the vocabulary and the materials are. -/
theorem aligned_transform (vocabulary : Vocabulary) (materials : List Text) (preposition : Text)
    (canonical : ∀ material ∈ materials, CanonicalWord material)
    (isCanonical : CanonicalWord preposition) (line : Text) (noBreak : '\n' ∉ line) :
    Aligned ⟨materials, preposition⟩ (tokenize commentMarker line)
        (tokenize commentMarker
          ((withMaterials vocabulary materials preposition).transform line)) ∧
      isPassthrough commentMarker
          ((withMaterials vocabulary materials preposition).transform line) =
        isPassthrough commentMarker line ∧
      (∀ (index : Nat) (token : Token), (tokenize commentMarker line)[index]? = some token →
        IsOpaque ⟨materials, preposition⟩ (tokenize commentMarker
          ((withMaterials vocabulary materials preposition).transform line)) index token →
        (tokenize commentMarker
          ((withMaterials vocabulary materials preposition).transform line))[index]? = some token) ∧
      ∀ (index : Nat) (token : Token), (tokenize commentMarker
          ((withMaterials vocabulary materials preposition).transform line))[index]? = some token →
        token.kind = .word → isBareName token.text = true →
        vocabulary.isKeyword token.text = false →
        token.text ∈ materials ∧ QualifierAt preposition (tokenize commentMarker
          ((withMaterials vocabulary materials preposition).transform line)) index := by
  rw [transform_of_newline_not_mem _ noBreak]
  have same := MaterialQuality.ofWords_of_canonical canonical isCanonical
  cases passed : isPassthrough commentMarker line with
  | true =>
      rw [frameLine_of_passthrough _ passed, passed]
      refine ⟨.refl _ _, rfl, fun _ _ found _ => found, ?_⟩
      intro index token found isWord bare _
      exact absurd ⟨token, found, isWord, bare⟩ (no_names_of_passthrough passed index)
  | false =>
      obtain ⟨stripping, lookedInto⟩ := @stripsExactly_frameLine vocabulary materials preposition
        line passed (same ▸ canonical)
      rw [same] at stripping
      have aligned := aligned_of_stripsExactly (lineTokens_tokenize passed) stripping
      refine ⟨aligned, lookedInto, fun _ _ => aligned.getElem?_of_isOpaque, ?_⟩
      intro index token found isWord bare free
      exact qualifierAt_of_identifierAt stripping found
        ((Scanner.frames_iff _).mpr ⟨isWord, bare, free⟩)

/-- An unbalanced line: the span that is left open swallows a material and a preposition. -/
theorem aligned_transform_unbalanced :
    CanonicalWord MaterialQuality.standardPreposition ∧
      (∀ material ∈ MaterialQuality.standardMaterials, CanonicalWord material) ∧
      Aligned MaterialQuality.standard
        (tokenize commentMarker "CUP OF |IRON| \"A |B\" 42 |OF STONE".toList)
        (tokenize commentMarker (transform {} "CUP OF |IRON| \"A |B\" 42 |OF STONE".toList)) := by
  have same : MaterialQuality.standard =
      ⟨MaterialQuality.standardMaterials, MaterialQuality.standardPreposition⟩ :=
    MaterialQuality.ofWords_of_canonical MaterialQuality.standardMaterials_canonical
      MaterialQuality.standardPreposition_canonical
  refine ⟨MaterialQuality.standardPreposition_canonical,
    MaterialQuality.standardMaterials_canonical, same ▸ ?_⟩
  exact (aligned_transform .reserved _ _ MaterialQuality.standardMaterials_canonical
    MaterialQuality.standardPreposition_canonical _ (by decide)).1

end Framer

end NameFraming
