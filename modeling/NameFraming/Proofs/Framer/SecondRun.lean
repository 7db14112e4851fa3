import NameFraming.Proofs.Framer.Passes

/-! A second run over the tokens of a framed line. A material that was stripped is framed by the
next scan and stripped again, unless it is reserved: then it stays bare, and what it completes may
be a shape that the first run did not see. Where it completes none, the second run ends where the
first one did. -/

namespace NameFraming

/-- A material that is reserved all the same, so that no scan frames it. -/
def Reclaimed (vocabulary : Vocabulary) (rule : MaterialQuality) (word : Text) : Prop :=
  word ∈ rule.materials ∧ vocabulary.isKeyword word = true

/-- A word that no scan frames. -/
structure StaysBare (vocabulary : Vocabulary) (word : Text) : Prop where
  wellFormed : Token.WellFormed ⟨.word, word⟩
  reserved : isBareName word = true → vocabulary.isKeyword word = true

/-- The ways in which a stripped material completes `PLACED AS` or `PUT TOGETHER` for a second run.
-/
inductive Unstable (vocabulary : Vocabulary) (rule : MaterialQuality) : Prop where
  /-- The preposition is a reserved word, and the material behind it begins the marker. -/
  | marker (word : Text) (reclaimed : Reclaimed vocabulary rule "PLACED".toList)
      (name : isBareName word = true) (reserved : vocabulary.isKeyword word = true)
      (reads : upper word = rule.preposition)
  | markerEnd (reclaimed : Reclaimed vocabulary rule "AS".toList)
      (preposition : rule.preposition = "PLACED".toList)
  /-- The operand that is found then is a reserved word, and does not become a quality at once. -/
  | operator (word : Text) (reclaimed : Reclaimed vocabulary rule "PUT".toList)
      (operand : vocabulary.isKeyword "ANOTHER".toList = true)
      (bare : StaysBare vocabulary word) (reads : upper word = rule.preposition)
      (kept : ¬ (rule.preposition = "TOGETHER".toList ∧ "ANOTHER".toList ∈ rule.materials))
  | operatorEnd (reclaimed : Reclaimed vocabulary rule "TOGETHER".toList)
      (operand : vocabulary.isKeyword "ANOTHER".toList = true)
      (preposition : rule.preposition = "PUT".toList)

section Named

variable {vocabulary : Vocabulary} {tokens : List Token} {index : Nat}

theorem not_placedAt_named : ¬ PlacedAt (named vocabulary tokens) index := by
  intro placed
  have framing := (framesExactly_targeted vocabulary tokens).trans
    (framesExactly_named_of_targeted vocabulary tokens)
  obtain ⟨earlier, unmarked⟩ := (targetAt_standard_iff.mpr placed).of_framesExactly framing
  exact unmarked (.inl earlier)

theorem not_putTogetherAt_named : ¬ PutTogetherAt (named vocabulary tokens) index := by
  intro together
  obtain ⟨entry, member, operand⟩ := isOperandAt_standard_iff.mpr together
  have stable := KeywordOperand.isOperandAt_iff_of_framesExactly
    (framesExactly_named_of_targeted vocabulary tokens) (fun _ => id) entry index
  obtain ⟨earlier, unmarked⟩ := stable.mp operand
  exact unmarked ⟨entry, member, earlier⟩

end Named

namespace MaterialQuality.StripsExactly

variable {vocabulary : Vocabulary} {rule : MaterialQuality} {tokens after : List Token}
  {index : Nat} {word : Text}

section Stripped

variable (stripping : rule.StripsExactly .ofRun (named vocabulary tokens) after)
include stripping

theorem exists_framed_of_stripsAt (before : LineTokens tokens)
    (strips : rule.StripsAt after (named vocabulary tokens) index) :
    ∃ token, after[index]? = some token ∧ token.text ∈ rule.materials ∧
      (named vocabulary tokens)[index]? = some token.framed := by
  obtain ⟨old, found, delimited, closed, member⟩ := strips.material
  have wellFormed := ((framesExactly_named vocabulary tokens).lineTokens before).wellFormed.at found
  have text := Token.text_eq_frameWord wellFormed delimited closed
  have restored : old = (Token.ofRun old.inner).framed := by
    obtain ⟨kind, oldText⟩ := old
    cases delimited
    exact congrArg (Token.mk .delimited) text
  refine ⟨.ofRun old.inner, ?_, member, restored ▸ found⟩
  rw [stripping.strips index strips, found]
  rfl

/-- A word that the second scan leaves was left by the first run, too, or it is a reserved material.
-/
theorem wordAt_named_or_reclaimed (before : LineTokens tokens)
    (canonical : ∀ material ∈ rule.materials, CanonicalWord material)
    (name : isBareName word = true) (reads : WordAt (scanned vocabulary after) index word) :
    WordAt (named vocabulary tokens) index word ∨
      rule.StripsAt after (named vocabulary tokens) index ∧ Reclaimed vocabulary rule word := by
  obtain ⟨⟨token, found, isWord⟩, notIdentifier⟩ :=
    (framesExactly_scanned vocabulary after).wordAt_iff.mp reads
  by_cases strips : rule.StripsAt after (named vocabulary tokens) index
  · obtain ⟨bare, bareFound, member, _⟩ := stripping.exists_framed_of_stripsAt before strips
    cases found.symm.trans bareFound
    obtain ⟨kind, same⟩ := Token.isWord_iff.mp isWord
    rw [(canonical _ member).upper] at same
    subst same
    have reserved := Scanner.isKeyword_of_not_identifierAt _ found kind name notIdentifier
    exact .inr ⟨strips, member, reserved⟩
  · rw [stripping.keeps index strips] at found
    exact .inl ⟨token, found, isWord⟩

/-- The preposition of a stripped material is a word of the line, or one stripped before. -/
theorem exists_staysBare_of_wordAt (before : LineTokens tokens)
    (reads : WordAt after index rule.preposition) :
    ∃ word, StaysBare vocabulary word ∧ upper word = rule.preposition := by
  induction index using Nat.strongRecOn with
  | ind index ih =>
      by_cases strips : rule.StripsAt after (named vocabulary tokens) index
      · have late := strips.two_le
        exact ih (index - 2) (by omega) strips.preposition
      · obtain ⟨token, found, isWord⟩ := reads
        rw [stripping.keeps index strips] at found
        obtain ⟨kind, same⟩ := Token.isWord_iff.mp isWord
        have shape :=
          ((framesExactly_named vocabulary tokens).lineTokens before).wellFormed.at found
        exact ⟨token.text, ⟨kind ▸ shape, fun name =>
          Scanner.isKeyword_of_not_identifierAt _ found kind name not_identifierAt_named⟩, same⟩

end Stripped

section Stable

variable (stripping : rule.StripsExactly .ofRun (named vocabulary tokens) after)
  (before : LineTokens tokens) (canonical : ∀ material ∈ rule.materials, CanonicalWord material)
  (stable : ¬ Unstable vocabulary rule)
include stripping before canonical stable

/-- The second run finds no target: the first one has framed it, if it was there. -/
theorem not_placedAt_scanned : ¬ PlacedAt (scanned vocabulary after) index := by
  intro target
  have framing := framesExactly_scanned vocabulary after
  have sameBlank : ∀ {index : Nat}, BlankAt (scanned vocabulary after) index ↔
      BlankAt (named vocabulary tokens) index :=
    (stripping.samePlain.trans framing.samePlain).blankAt_iff
  have first := target.first
  rw [sameBlank] at first
  obtain ⟨⟨token, found, isWord, name⟩, notIdentifier⟩ := framing.nameAt_iff.mp target.name
  have reserved := Scanner.isKeyword_of_not_identifierAt _ found isWord name notIdentifier
  have kept : ¬ rule.StripsAt after (named vocabulary tokens) index := by
    intro strips
    have late := strips.two_le
    omega
  rcases stripping.wordAt_named_or_reclaimed before canonical (by decide) target.placed with
    placed | ⟨strips, reclaimed⟩
  · rcases stripping.wordAt_named_or_reclaimed before canonical (by decide) target.assigned with
      assigned | ⟨strips, reclaimed⟩
    · rw [stripping.keeps index kept] at found
      exact not_placedAt_named ⟨first, ⟨token, found, isWord, name⟩, sameBlank.mp target.gap,
        placed, sameBlank.mp target.between, assigned⟩
    · have preposition := wordAt_unique strips.preposition (framing.wordAt_iff.mp target.placed).1
      exact stable (.markerEnd reclaimed preposition)
  · obtain ⟨_, sameFound, reads⟩ := strips.preposition
    cases found.symm.trans sameFound
    exact stable (.marker token.text reclaimed name reserved (Token.isWord_iff.mp reads).2)

theorem framesExactly_named_of_scanned :
    FramesExactly (PutTogetherAt (scanned vocabulary after)) (scanned vocabulary after)
      (named vocabulary after) := by
  have same : targeted vocabulary after = scanned vocabulary after := by
    apply (framesExactly_targeted vocabulary after).eq_of_none
    intro index target
    exact stripping.not_placedAt_scanned before canonical stable (targetAt_standard_iff.mp target)
  have framing := framesExactly_named_of_targeted vocabulary after
  rw [same] at framing
  exact framing.congr fun index => isOperandAt_standard_iff

/-- An operand that only the second run finds stands where a material becomes a quality. -/
theorem quality_of_putTogetherAt (together : PutTogetherAt (scanned vocabulary after) index)
    (kept : ¬ rule.StripsAt after (named vocabulary tokens) index) :
    rule.preposition = "TOGETHER".toList ∧ "ANOTHER".toList ∈ rule.materials := by
  have framing := framesExactly_scanned vocabulary after
  have plain := stripping.samePlain.trans framing.samePlain
  obtain ⟨found, notIdentifier⟩ := framing.getElem?_of_kind together.getElem?_eq (by decide)
  have reserved : vocabulary.isKeyword "ANOTHER".toList = true :=
    Scanner.isKeyword_of_not_identifierAt _ found rfl (by decide) notIdentifier
  rcases stripping.wordAt_named_or_reclaimed before canonical (by decide) together.together with
    wasTogether | ⟨strips, reclaimed⟩
  · rcases stripping.wordAt_named_or_reclaimed before canonical (by decide) together.put with
      wasPut | ⟨strips, reclaimed⟩
    · rw [stripping.keeps index kept] at found
      exact absurd ⟨together.four_le, wasPut, plain.blankAt_iff.mp together.between, wasTogether,
        plain.blankAt_iff.mp together.gap, ⟨_, found, by decide⟩, ⟨_, found, rfl, by decide⟩,
        plain.statementEndsAt_iff.mp together.ends⟩ not_putTogetherAt_named
    · obtain ⟨word, bare, reads⟩ := stripping.exists_staysBare_of_wordAt before strips.preposition
      by_contra noQuality
      exact stable (.operator word reclaimed reserved bare reads noQuality)
  · have preposition := wordAt_unique strips.preposition
      (Nat.sub_sub index 2 2 ▸ (framing.wordAt_iff.mp together.put).1)
    exact absurd (.operatorEnd reclaimed reserved preposition) stable

theorem stripsAt_of_putTogetherAt (together : PutTogetherAt (scanned vocabulary after) index)
    (kept : ¬ rule.StripsAt after (named vocabulary tokens) index) :
    rule.StripsAt after (named vocabulary after) index ∧
      (named vocabulary after)[index]? = some (Token.framed ⟨.word, "ANOTHER".toList⟩) ∧
      after[index]? = some ⟨.word, "ANOTHER".toList⟩ := by
  obtain ⟨preposition, material⟩ :=
    stripping.quality_of_putTogetherAt before canonical stable together kept
  have framing := framesExactly_scanned vocabulary after
  have framingOperand := stripping.framesExactly_named_of_scanned before canonical stable
  have found := (framing.getElem?_of_kind together.getElem?_eq (by decide)).1
  have framed : (named vocabulary after)[index]? =
      some (Token.framed ⟨.word, "ANOTHER".toList⟩) := by
    rw [framingOperand.frames index together, together.getElem?_eq]
    rfl
  refine ⟨⟨by have late := together.four_le; omega, ⟨_, framed, rfl, by simp, by simpa⟩,
    framingOperand.samePlain.blankAt_iff.mpr together.gap, ?_, ?_⟩, framed, found⟩
  · rw [preposition]
    exact (framing.wordAt_iff.mp together.together).1
  · exact (framingOperand.samePlain.statementEndsAt_iff.mpr together.ends).not_isRun

/-- What the second run has before it strips: what the first one had, or a word that is to be bare
anyway, or an operand that is stripped again. -/
theorem getElem?_named_cases (index : Nat) :
    (named vocabulary after)[index]? = (named vocabulary tokens)[index]? ∨
      rule.StripsAt after (named vocabulary tokens) index ∧
        (named vocabulary after)[index]? = after[index]? ∨
      rule.StripsAt after (named vocabulary after) index ∧
        after[index]? = (named vocabulary after)[index]?.map fun token => .ofRun token.inner := by
  have framing := framesExactly_scanned vocabulary after
  have framingOperand := stripping.framesExactly_named_of_scanned before canonical stable
  by_cases strips : rule.StripsAt after (named vocabulary tokens) index
  · obtain ⟨token, found, _, framed⟩ := stripping.exists_framed_of_stripsAt before strips
    rcases (framing.trans framingOperand).getElem?_eq found with bare | ⟨_, _, _, again⟩
    · exact .inr (.inl ⟨strips, bare.trans found.symm⟩)
    · exact .inl (again.trans framed.symm)
  · have kept := stripping.keeps index strips
    have notIdentifier : ¬ Scanner.IdentifierAt { vocabulary } after index := by
      intro ⟨token, found, frames⟩
      exact not_identifierAt_named ⟨token, kept ▸ found, frames⟩
    by_cases together : PutTogetherAt (scanned vocabulary after) index
    · obtain ⟨stripsAgain, framed, found⟩ :=
        stripping.stripsAt_of_putTogetherAt before canonical stable together strips
      refine .inr (.inr ⟨stripsAgain, ?_⟩)
      rw [framed, found]
      decide
    · rw [framingOperand.keeps index together, framing.keeps index notIdentifier]
      exact .inl kept

theorem stripsAt_again_iff
    (same : (named vocabulary after)[index]? = (named vocabulary tokens)[index]?) :
    rule.StripsAt after (named vocabulary after) index ↔
      rule.StripsAt after (named vocabulary tokens) index := by
  have plain := stripping.samePlain.trans (framesExactly_named vocabulary after).samePlain
  -- A delimited token is no gap, so neither run changes what stands behind it.
  have sameNext : (∃ token, (named vocabulary tokens)[index]? = some token ∧
      token.kind = .delimited) →
      (named vocabulary after)[index + 1]? = (named vocabulary tokens)[index + 1]? := by
    intro ⟨token, found, delimited⟩
    have notBlank : ¬ BlankAt (named vocabulary tokens) index :=
      not_blankAt_of_kind found (by simp [delimited])
    rcases stripping.getElem?_named_cases before canonical stable (index + 1) with
      sameNext | ⟨strips, _⟩ | ⟨strips, _⟩
    · exact sameNext
    · exact absurd strips.gap notBlank
    · exact absurd (plain.blankAt_iff.mp strips.gap) notBlank
  constructor
  · intro strips
    obtain ⟨token, found, delimited, closed, member⟩ := strips.material
    rw [same] at found
    have free := strips.free
    rw [sameNext ⟨token, found, delimited⟩] at free
    exact ⟨strips.two_le, ⟨token, found, delimited, closed, member⟩,
      plain.blankAt_iff.mp strips.gap, strips.preposition, free⟩
  · intro strips
    obtain ⟨token, found, delimited, closed, member⟩ := strips.material
    have free := strips.free
    rw [← sameNext ⟨token, found, delimited⟩] at free
    exact ⟨strips.two_le, ⟨token, same.trans found, delimited, closed, member⟩,
      plain.blankAt_iff.mpr strips.gap, strips.preposition, free⟩

/-- Stripping what the second run frames ends where the first run did. -/
theorem again : rule.StripsExactly .ofRun (named vocabulary after) after := by
  constructor
  · intro index strips
    rcases stripping.getElem?_named_cases before canonical stable index with
      same | ⟨wasStripped, bare⟩ | ⟨_, stripped⟩
    · rw [same]
      exact stripping.strips index
        ((stripping.stripsAt_again_iff before canonical stable same).mp strips)
    · obtain ⟨token, found, delimited, _⟩ := strips.material
      rw [bare, stripping.strips index wasStripped] at found
      obtain ⟨old, _, rfl⟩ := Option.map_eq_some_iff.mp found
      have run := Token.isRun_ofRun old.inner
      simp [Token.isRun, delimited] at run
    · exact stripped
  · intro index kept
    rcases stripping.getElem?_named_cases before canonical stable index with
      same | ⟨_, bare⟩ | ⟨strips, _⟩
    · rw [same]
      exact stripping.keeps index fun strips =>
        kept ((stripping.stripsAt_again_iff before canonical stable same).mpr strips)
    · exact bare.symm
    · exact absurd strips kept

end Stable

end MaterialQuality.StripsExactly

end NameFraming
