import NameFraming.Proofs.Framer.Alignment

/-! One run, said of the tokens of the line alone. With the words of the phrases and the preposition
reserved, and no material reserved, the passes do not get into each other's way: what each of them
looks for stands on the line already. -/

namespace NameFraming

/-- The words on which the passes agree. -/
structure Orderly (vocabulary : Vocabulary) : Prop where
  reserved : ∀ word ∈ ["OF", "PLACED", "AS", "PUT", "TOGETHER"].map String.toList,
    vocabulary.isKeyword word = true
  materials : ∀ material ∈ MaterialQuality.standardMaterials, vocabulary.isKeyword material = false

section Names

variable {vocabulary : Vocabulary} {tokens : List Token} {index : Nat} {word : Text}

theorem not_identifierAt_of_wordAt (reserved : vocabulary.isKeyword word = true)
    (isUpper : upper word = word) (reads : WordAt tokens index word) :
    ¬ Scanner.IdentifierAt { vocabulary } tokens index := by
  intro ⟨token, found, frames⟩
  obtain ⟨_, sameFound, isWord⟩ := reads
  cases found.symm.trans sameFound
  have notReserved := ((Scanner.frames_iff _).mp frames).2.2
  have same : upper token.text = upper word := (Token.isWord_iff.mp isWord).2.trans isUpper.symm
  rw [Vocabulary.isKeyword_congr same, reserved] at notReserved
  cases notReserved

theorem wordAt_scanned (reserved : vocabulary.isKeyword word = true) (isUpper : upper word = word)
    (reads : WordAt tokens index word) : WordAt (scanned vocabulary tokens) index word :=
  (framesExactly_scanned vocabulary tokens).wordAt_iff.mpr
    ⟨reads, not_identifierAt_of_wordAt reserved isUpper reads⟩

variable (orderly : Orderly vocabulary)
include orderly

theorem placedAt_scanned_iff :
    PlacedAt (scanned vocabulary tokens) index ↔
      PlacedAt tokens index ∧ ¬ Scanner.IdentifierAt { vocabulary } tokens index := by
  have framing := framesExactly_scanned vocabulary tokens
  constructor
  · intro target
    obtain ⟨earlier, kept⟩ := (targetAt_standard_iff.mpr target).of_framesExactly framing
    exact ⟨targetAt_standard_iff.mp earlier, kept⟩
  · intro ⟨target, kept⟩
    have sameBlank : ∀ {index : Nat},
        BlankAt (scanned vocabulary tokens) index ↔ BlankAt tokens index :=
      framing.samePlain.blankAt_iff
    refine ⟨?_, framing.nameAt_iff.mpr ⟨target.name, kept⟩, sameBlank.mpr target.gap, ?_,
      sameBlank.mpr target.between, ?_⟩
    · rw [sameBlank]
      exact target.first
    · exact wordAt_scanned (orderly.reserved _ (by decide)) (by decide) target.placed
    · exact wordAt_scanned (orderly.reserved _ (by decide)) (by decide) target.assigned

theorem putTogetherAt_targeted_iff :
    PutTogetherAt (targeted vocabulary tokens) index ↔
      PutTogetherAt tokens index ∧ ¬ Scanner.IdentifierAt { vocabulary } tokens index := by
  have framing := (framesExactly_scanned vocabulary tokens).trans
    (framesExactly_targeted vocabulary tokens)
  have plain := framing.samePlain
  constructor
  · intro operand
    obtain ⟨name, kept⟩ := framing.nameAt_iff.mp operand.name
    exact ⟨⟨operand.four_le, (framing.wordAt_iff.mp operand.put).1,
      plain.blankAt_iff.mp operand.between, (framing.wordAt_iff.mp operand.together).1,
      plain.blankAt_iff.mp operand.gap, (framing.wordAt_iff.mp operand.operand).1, name,
      plain.statementEndsAt_iff.mp operand.ends⟩, fun identifier => kept (.inl identifier)⟩
  · intro ⟨operand, notIdentifier⟩
    have late := operand.four_le
    have notTarget : ∀ {index : Nat}, 2 ≤ index →
        ¬ AssignmentTarget.standard.TargetAt (scanned vocabulary tokens) index := by
      intro index notFirst target
      have first := target.lt_two
      omega
    have putKept : ¬ (Scanner.IdentifierAt { vocabulary } tokens (index - 4) ∨
        AssignmentTarget.standard.TargetAt (scanned vocabulary tokens) (index - 4)) := by
      rw [targetAt_standard_iff, placedAt_scanned_iff orderly]
      intro either
      rcases either with identifier | ⟨target, _⟩
      · exact not_identifierAt_of_wordAt (orderly.reserved _ (by decide)) (by decide) operand.put
          identifier
      · have placed := target.placed
        rw [(by omega : index - 4 + 2 = index - 2)] at placed
        exact absurd (wordAt_unique placed operand.together) (by decide)
    have togetherKept : ¬ (Scanner.IdentifierAt { vocabulary } tokens (index - 2) ∨
        AssignmentTarget.standard.TargetAt (scanned vocabulary tokens) (index - 2)) :=
      not_or.mpr ⟨not_identifierAt_of_wordAt (orderly.reserved _ (by decide)) (by decide)
        operand.together, notTarget (by omega)⟩
    have kept := not_or.mpr ⟨notIdentifier, notTarget (by omega : 2 ≤ index)⟩
    exact ⟨late, framing.wordAt_iff.mpr ⟨operand.put, putKept⟩,
      plain.blankAt_iff.mpr operand.between,
      framing.wordAt_iff.mpr ⟨operand.together, togetherKept⟩, plain.blankAt_iff.mpr operand.gap,
      framing.wordAt_iff.mpr ⟨operand.operand, kept⟩, framing.nameAt_iff.mpr ⟨operand.name, kept⟩,
      plain.statementEndsAt_iff.mpr operand.ends⟩

theorem becomesName_iff :
    BecomesName vocabulary tokens index ↔
      Scanner.IdentifierAt { vocabulary } tokens index ∨ PlacedAt tokens index ∨
        PutTogetherAt tokens index := by
  unfold BecomesName
  rw [targetAt_standard_iff, isOperandAt_standard_iff, placedAt_scanned_iff orderly,
    putTogetherAt_targeted_iff orderly]
  by_cases identifier : Scanner.IdentifierAt { vocabulary } tokens index <;>
    simp [identifier]

/-- Behind a framed material there may be a name, which is framed as well. -/
theorem free_named_iff {token : Token} (late : 2 ≤ index) (found : tokens[index]? = some token)
    (notOther : token.kind ≠ .other) :
    (∀ next, (named vocabulary tokens)[index + 1]? = some next → next.isRun = false) ↔
      ∀ next, tokens[index + 1]? = some next → next.isRun = true →
        Scanner.frames { vocabulary } next = true := by
  have framing := framesExactly_named vocabulary tokens
  -- Behind a delimited token there is neither a target nor an operand.
  have becomes : BecomesName vocabulary tokens (index + 1) →
      Scanner.IdentifierAt { vocabulary } tokens (index + 1) := by
    rw [becomesName_iff orderly]
    intro becomes
    rcases becomes with identifier | target | operand
    · exact identifier
    · have first := (targetAt_standard_iff.mpr target).lt_two
      omega
    · exact absurd operand.gap (not_blankAt_of_kind found notOther)
  constructor
  · intro free next nextFound run
    rcases framing.getElem?_eq nextFound with kept | ⟨mark, _⟩
    · rw [free next kept] at run
      cases run
    · obtain ⟨_, sameFound, frames⟩ := becomes mark
      cases nextFound.symm.trans sameFound
      exact frames
  · intro free next nextFound
    obtain ⟨old, oldFound, _⟩ := framing.rewritten (index + 1) next nextFound
    by_cases run : old.isRun = true
    · have identifier : Scanner.IdentifierAt { vocabulary } tokens (index + 1) :=
        ⟨old, oldFound, free old oldFound run⟩
      rw [framing.frames _ ((becomesName_iff orderly).mpr (.inl identifier)), oldFound] at nextFound
      cases nextFound
      rfl
    · rcases framing.getElem?_eq oldFound with kept | ⟨_, isWord, _⟩
      · cases nextFound.symm.trans kept
        exact Bool.eq_false_iff.mpr run
      · simp [Token.isRun, isWord] at run

end Names

/-- A word that gets its delimiters: the target of an assignment, the last operand of a statement,
or a name that is not a quality. -/
def GetsFramed (vocabulary : Vocabulary) (tokens : List Token) (index : Nat) : Prop :=
  PlacedAt tokens index ∨ PutTogetherAt tokens index ∨
    ∃ word, tokens[index]? = some ⟨.word, word⟩ ∧ isBareName word = true ∧
      vocabulary.isKeyword word = false ∧
      ¬ (word ∈ MaterialQuality.standardMaterials ∧
        QualifierAt MaterialQuality.standardPreposition tokens index)

/-- A framed material that loses its delimiters. A name behind it is no obstacle, since that gets
delimiters itself. -/
structure GetsBare (vocabulary : Vocabulary) (tokens : List Token) (index : Nat)
    (material : Text) : Prop where
  member : material ∈ MaterialQuality.standardMaterials
  found : tokens[index]? = some ⟨.delimited, frameWord material⟩
  quality : QualifierAt MaterialQuality.standardPreposition tokens index
  free : ∀ next, tokens[index + 1]? = some next → next.isRun = true →
    Scanner.frames { vocabulary } next = true

/-- What the tokens of a line become, said of these tokens alone. -/
structure Specified (vocabulary : Vocabulary) (before after : List Token) : Prop where
  length : after.length = before.length
  words : ∀ (index : Nat) (word : Text), before[index]? = some ⟨.word, word⟩ →
    (after[index]? = some ⟨.delimited, frameWord word⟩ ↔ GetsFramed vocabulary before index) ∧
    (¬ GetsFramed vocabulary before index → after[index]? = some ⟨.word, word⟩)
  materials : ∀ (index : Nat) (material : Text), GetsBare vocabulary before index material →
    after[index]? = some ⟨.word, material⟩
  others : ∀ (index : Nat) (token : Token), before[index]? = some token → token.kind ≠ .word →
    (∀ material, ¬ GetsBare vocabulary before index material) → after[index]? = some token

theorem getsFramed_iff {vocabulary : Vocabulary} {tokens : List Token} {index : Nat} {word : Text}
    (orderly : Orderly vocabulary) (found : tokens[index]? = some ⟨.word, word⟩) :
    GetsFramed vocabulary tokens index ↔
      BecomesName vocabulary tokens index ∧
        ¬ (word ∈ MaterialQuality.standardMaterials ∧
          QualifierAt MaterialQuality.standardPreposition tokens index) := by
  rw [becomesName_iff orderly]
  constructor
  · intro gets
    rcases gets with target | operand | ⟨_, sameFound, name, notReserved, noQuality⟩
    · refine ⟨.inr (.inl target), fun ⟨_, quality⟩ => ?_⟩
      have first := (targetAt_standard_iff.mpr target).lt_two
      have late := quality.two_le
      omega
    · refine ⟨.inr (.inr operand), fun ⟨member, _⟩ => ?_⟩
      cases found.symm.trans operand.getElem?_eq
      exact absurd member (by decide)
    · cases found.symm.trans sameFound
      exact ⟨.inl ⟨_, found, (Scanner.frames_iff _).mpr ⟨rfl, name, notReserved⟩⟩, noQuality⟩
  · intro ⟨becomes, noQuality⟩
    rcases becomes with ⟨_, sameFound, frames⟩ | target | operand
    · cases found.symm.trans sameFound
      obtain ⟨_, name, notReserved⟩ := (Scanner.frames_iff _).mp frames
      exact .inr (.inr ⟨word, found, name, notReserved, noQuality⟩)
    · exact .inl target
    · exact .inr (.inl operand)

namespace MaterialQuality.StripsExactly

variable {vocabulary : Vocabulary} {tokens after : List Token} {index : Nat}
  (orderly : Orderly vocabulary)
  (stripping : StripsExactly ⟨standardMaterials, standardPreposition⟩ .ofRun
    (named vocabulary tokens) after)
include orderly stripping

/-- The preposition stays what it is, unless something is assigned to it. -/
theorem wordAt_preposition_iff :
    WordAt after index standardPreposition ↔
      WordAt tokens index standardPreposition ∧ ¬ PlacedAt tokens index := by
  have framing := framesExactly_named vocabulary tokens
  constructor
  · intro reads
    by_cases strips : StripsAt ⟨standardMaterials, standardPreposition⟩ after
        (named vocabulary tokens) index
    · -- A stripped material does not read as the preposition.
      obtain ⟨old, oldFound, _, _, member⟩ := strips.material
      obtain ⟨token, found, isWord⟩ := reads
      rw [stripping.strips index strips, oldFound] at found
      cases found
      have same := (Token.isWord_iff.mp isWord).2
      rw [Token.text_ofRun, (standardMaterials_canonical _ member).upper] at same
      rw [same] at member
      exact absurd member (by decide)
    · have readsBefore : WordAt (named vocabulary tokens) index standardPreposition := by
        obtain ⟨token, found, isWord⟩ := reads
        exact ⟨token, stripping.keeps index strips ▸ found, isWord⟩
      obtain ⟨onLine, kept⟩ := framing.wordAt_iff.mp readsBefore
      rw [becomesName_iff orderly] at kept
      exact ⟨onLine, fun target => kept (.inr (.inl target))⟩
  · intro ⟨reads, noTarget⟩
    have kept : ¬ BecomesName vocabulary tokens index := by
      rw [becomesName_iff orderly]
      intro becomes
      rcases becomes with identifier | target | operand
      · exact not_identifierAt_of_wordAt (orderly.reserved _ (by decide)) (by decide) reads
          identifier
      · exact noTarget target
      · exact absurd (wordAt_unique reads operand.operand) (by decide)
    obtain ⟨token, found, isWord⟩ := framing.wordAt_iff.mpr ⟨reads, kept⟩
    rcases stripping.getElem?_cases found with ⟨_, same⟩ | ⟨_, delimited, _⟩
    · exact ⟨token, same, isWord⟩
    · rw [(Token.isWord_iff.mp isWord).1] at delimited
      cases delimited

/-- Behind the preposition stands the same before and after, unless the preposition is a target. -/
theorem qualifierAt_iff {token : Token} (found : tokens[index]? = some token)
    (notMarker : token.isWord "PLACED".toList = false) :
    QualifierAt standardPreposition tokens index ↔
      2 ≤ index ∧ BlankAt (named vocabulary tokens) (index - 1) ∧
        WordAt after (index - 2) standardPreposition := by
  have sameBlank := (framesExactly_named vocabulary tokens).samePlain
  rw [stripping.wordAt_preposition_iff orderly, sameBlank.blankAt_iff]
  constructor
  · intro quality
    refine ⟨quality.two_le, quality.gap, quality.preposition, fun target => ?_⟩
    have late := quality.two_le
    obtain ⟨other, otherFound, isPlaced⟩ := target.placed
    rw [Nat.sub_add_cancel late, found] at otherFound
    cases otherFound
    rw [notMarker] at isPlaced
    cases isPlaced
  · intro ⟨late, gap, preposition, _⟩
    exact ⟨late, gap, preposition⟩

/-- A name that was just framed loses its delimiters when it is a quality on the line. -/
theorem stripsAt_name_iff {word : Text} (before : LineTokens tokens)
    (found : tokens[index]? = some ⟨.word, word⟩) (becomes : BecomesName vocabulary tokens index) :
    StripsAt ⟨standardMaterials, standardPreposition⟩ after (named vocabulary tokens) index ↔
      word ∈ standardMaterials ∧ QualifierAt standardPreposition tokens index := by
  have framing := framesExactly_named vocabulary tokens
  have framed := framing.frames index becomes
  rw [found, Option.map_some] at framed
  have notMarker : ∀ material ∈ standardMaterials,
      Token.isWord ⟨.word, material⟩ "PLACED".toList = false := by decide
  constructor
  · intro strips
    obtain ⟨token, tokenFound, _, _, member⟩ := strips.material
    cases framed.symm.trans tokenFound
    rw [Token.framed_inner] at member
    exact ⟨member, (stripping.qualifierAt_iff orderly found (notMarker word member)).mpr
      ⟨strips.two_le, strips.gap, strips.preposition⟩⟩
  · intro ⟨member, quality⟩
    obtain ⟨late, gap, preposition⟩ :=
      (stripping.qualifierAt_iff orderly found (notMarker word member)).mp quality
    refine ⟨late, ⟨_, framed, rfl, by simp, by simpa⟩, gap, preposition, ?_⟩
    intro next nextFound
    obtain ⟨old, oldFound, changed⟩ := framing.rewritten (index + 1) next nextFound
    have noRun : old.isRun = false := by
      simpa [Token.isRun] using (before.wellFormed.mayPrecede found oldFound).2.1
    have notWord : old.kind ≠ .word := by
      intro isWord
      simp [Token.isRun, isWord] at noRun
    rw [framing.keeps _ (framing.not_marked_of_kind oldFound notWord), oldFound] at nextFound
    cases nextFound
    exact noRun

theorem stripsAt_other_iff {token : Token} (before : LineTokens tokens)
    (found : tokens[index]? = some token) (notWord : token.kind ≠ .word) :
    StripsAt ⟨standardMaterials, standardPreposition⟩ after (named vocabulary tokens) index ↔
      GetsBare vocabulary tokens index token.inner := by
  have framing := framesExactly_named vocabulary tokens
  have kept := framing.keeps index (framing.not_marked_of_kind found notWord)
  have notMarker : token.isWord "PLACED".toList = false := by
    simp [Token.isWord, notWord]
  constructor
  · intro strips
    obtain ⟨_, sameFound, delimited, closed, member⟩ := strips.material
    cases found.symm.trans (kept.symm.trans sameFound)
    have text := Token.text_eq_frameWord (before.wellFormed.at found) delimited closed
    refine ⟨member, ?_, (stripping.qualifierAt_iff orderly found notMarker).mpr
      ⟨strips.two_le, strips.gap, strips.preposition⟩, ?_⟩
    · rw [found, ← text, ← delimited]
    · exact (free_named_iff orderly strips.two_le found (by simp [delimited])).mp strips.free
  · intro bare
    obtain ⟨late, gap, preposition⟩ :=
      (stripping.qualifierAt_iff orderly found notMarker).mp bare.quality
    have same : token = ⟨.delimited, frameWord token.inner⟩ :=
      Option.some.inj (found.symm.trans bare.found)
    have delimited : token.kind = .delimited := congrArg Token.kind same
    have closed : token.terminated = true := by
      rw [same]
      exact Token.framed_terminated ⟨.word, token.inner⟩
    have free := (free_named_iff orderly late found (by simp [delimited])).mpr bare.free
    exact ⟨late, ⟨token, kept.trans found, delimited, closed, bare.member⟩, gap, preposition, free⟩

theorem getElem?_of_not_getsFramed {word : Text} (before : LineTokens tokens)
    (found : tokens[index]? = some ⟨.word, word⟩) (kept : ¬ GetsFramed vocabulary tokens index) :
    after[index]? = some ⟨.word, word⟩ := by
  have framing := framesExactly_named vocabulary tokens
  rw [getsFramed_iff orderly found, not_and_not_right] at kept
  by_cases becomes : BecomesName vocabulary tokens index
  · -- The name is a quality: the last pass undoes what the first one did.
    have strips := (stripping.stripsAt_name_iff orderly before found becomes).mpr (kept becomes)
    have reread := Token.reread_of_wellFormed (before.wellFormed.at found)
    rw [Token.reread, if_pos rfl] at reread
    rw [stripping.strips index strips, framing.frames index becomes, found, Option.map_some,
      Option.map_some, Token.framed_inner, reread]
  · have same := (framing.keeps index becomes).trans found
    rcases stripping.getElem?_cases same with ⟨_, unchanged⟩ | ⟨_, delimited, _⟩
    · exact unchanged
    · cases delimited

theorem specified (before : LineTokens tokens) : Specified vocabulary tokens after := by
  have framing := framesExactly_named vocabulary tokens
  refine ⟨stripping.samePlain.length.trans framing.samePlain.length, ?_, ?_, ?_⟩
  · intro index word found
    refine ⟨⟨?_, ?_⟩, stripping.getElem?_of_not_getsFramed orderly before found⟩
    · intro framed
      by_contra kept
      rw [stripping.getElem?_of_not_getsFramed orderly before found kept] at framed
      cases framed
    · intro gets
      obtain ⟨becomes, noQuality⟩ := (getsFramed_iff orderly found).mp gets
      have kept := mt (stripping.stripsAt_name_iff orderly before found becomes).mp noQuality
      rw [stripping.keeps index kept, framing.frames index becomes, found]
      rfl
  · intro index material bare
    have inner := Token.framed_inner ⟨.word, material⟩
    have isWord : ∀ material ∈ standardMaterials, Token.ofRun material = ⟨.word, material⟩ := by
      decide
    have strips := (stripping.stripsAt_other_iff orderly before bare.found (by simp)).mpr
      (inner ▸ bare)
    rw [stripping.strips index strips,
      framing.keeps index (framing.not_marked_of_kind bare.found (by simp)), bare.found,
      Option.map_some]
    exact congrArg some ((congrArg Token.ofRun inner).trans (isWord material bare.member))
  · intro index token found notWord kept
    have notStripped : ¬ StripsAt ⟨standardMaterials, standardPreposition⟩ after
        (named vocabulary tokens) index :=
      fun strips => kept _ ((stripping.stripsAt_other_iff orderly before found notWord).mp strips)
    rw [stripping.keeps index notStripped,
      framing.keeps index (framing.not_marked_of_kind found notWord)]
    exact found

end MaterialQuality.StripsExactly

theorem orderly_reserved : Orderly .reserved := by
  constructor
  · intro word listed
    obtain ⟨name, inNames, rfl⟩ := List.mem_map.mp listed
    refine Vocabulary.isKeyword_ofWords_iff.mpr ⟨name.toList, List.mem_map_of_mem ?_, rfl⟩
    revert name
    decide +kernel
  · intro material listed
    have apart : Vocabulary.reservedWords.all (fun word =>
        !MaterialQuality.standardMaterials.contains (upper word)) = true := by decide +kernel
    rw [Bool.eq_false_iff, ne_eq]
    intro reserved
    obtain ⟨word, member, same⟩ := Vocabulary.isKeyword_ofWords_iff.mp reserved
    rw [(MaterialQuality.standardMaterials_canonical material listed).upper] at same
    have differs := List.all_eq_true.mp apart word member
    simp [same, listed] at differs

namespace Framer

/-- One run of the standard rules, for every vocabulary with which the passes agree; the standard
one is among them. -/
theorem specified_transform :
    (∀ (vocabulary : Vocabulary) (line : Text), Orderly vocabulary → '\n' ∉ line →
      isPassthrough commentMarker line = false →
      Specified vocabulary (tokenize commentMarker line)
        (tokenize commentMarker (transform { vocabulary } line))) ∧
    Orderly .reserved := by
  refine ⟨?_, orderly_reserved⟩
  intro vocabulary line orderly noBreak lookedInto
  have same := MaterialQuality.ofWords_of_canonical MaterialQuality.standardMaterials_canonical
    MaterialQuality.standardPreposition_canonical
  have stripping := (@stripsExactly_frameLine vocabulary MaterialQuality.standardMaterials
    MaterialQuality.standardPreposition line lookedInto
    (same ▸ MaterialQuality.standardMaterials_canonical)).1
  rw [same] at stripping
  rw [transform_of_newline_not_mem _ noBreak]
  exact stripping.specified orderly (lineTokens_tokenize lookedInto)

/-- Qualities and names side by side, and a reserved word that is an operand. -/
theorem specified_transform_operand :
    '\n' ∉ "CUP OF |IRON|CUP OF STONE PUT TOGETHER ANOTHER.".toList ∧
    isPassthrough commentMarker "CUP OF |IRON|CUP OF STONE PUT TOGETHER ANOTHER.".toList = false ∧
    Specified .reserved
      (tokenize commentMarker "CUP OF |IRON|CUP OF STONE PUT TOGETHER ANOTHER.".toList)
      (tokenize commentMarker
        (transform {} "CUP OF |IRON|CUP OF STONE PUT TOGETHER ANOTHER.".toList)) := by
  have noBreak : '\n' ∉ "CUP OF |IRON|CUP OF STONE PUT TOGETHER ANOTHER.".toList := by decide
  have lookedInto : isPassthrough commentMarker
      "CUP OF |IRON|CUP OF STONE PUT TOGETHER ANOTHER.".toList = false := by decide
  exact ⟨noBreak, lookedInto,
    specified_transform.1 .reserved _ specified_transform.2 noBreak lookedInto⟩

end Framer

end NameFraming
