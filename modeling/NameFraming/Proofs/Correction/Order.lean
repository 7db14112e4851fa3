import NameFraming.Proofs.Correction.Corrected
import NameFraming.Proofs.Settings

/-! The order of the correction rules. A rule turns bare words into delimited ones or back, which is
what the patterns of the other rules are made of; all the same, with materials that are no word of
the two phrases, none of the three makes or breaks a match of another. -/

namespace NameFraming

namespace MaterialQuality

variable {rule : MaterialQuality} {tokens after framed framedAfter : List Token} {index : Nat}
  {word : Text} {marked : Nat → Prop}

theorem StripsExactly.wordAt_iff (stripping : rule.StripsExactly .ofRun tokens after)
    (canonical : ∀ material ∈ rule.materials, CanonicalWord material)
    (other : word ∉ rule.materials) :
    WordAt after index word ↔ WordAt tokens index word := by
  by_cases strips : rule.StripsAt after tokens index
  · obtain ⟨token, found, delimited, _, member⟩ := strips.material
    rw [WordAt, WordAt, stripping.strips index strips, found]
    constructor
    · intro bareReads
      obtain ⟨bare, same, reads⟩ := bareReads
      cases same
      have form := (Token.isWord_iff.mp reads).2
      rw [Token.text_ofRun, (canonical _ member).upper] at form
      exact absurd (form ▸ member) other
    · intro framedReads
      obtain ⟨framed, same, reads⟩ := framedReads
      cases same
      have isWord := (Token.isWord_iff.mp reads).1
      rw [delimited] at isWord
      cases isWord
  · rw [WordAt, WordAt, stripping.keeps index strips]

/-- A word that can get delimiters without any effect on the qualities of the line. -/
structure Unrelated (rule : MaterialQuality) (tokens : List Token) (index : Nat) : Prop where
  front : index < 2 ∨ BlankAt tokens (index - 1)
  noMaterial : ∀ token, tokens[index]? = some token → 2 ≤ index → token.text ∉ rule.materials
  noPreposition : ∀ token, BlankAt tokens (index + 1) → tokens[index + 2]? = some token →
    token.kind ≠ .delimited

section Framed

variable (stripping : rule.StripsExactly .ofRun tokens after)
  (framing : FramesExactly marked tokens framed)
  (framedStripping : rule.StripsExactly .ofRun framed framedAfter)
  (unrelated : ∀ index, marked index → rule.Unrelated tokens index)

include framing unrelated in
theorem not_stripsAt_of_marked (mark : marked index) :
    ¬ rule.StripsAt framedAfter framed index := by
  intro strips
  obtain ⟨token, found, _, _, member⟩ := strips.material
  rw [framing.frames index mark] at found
  obtain ⟨old, oldFound, rfl⟩ := Option.map_eq_some_iff.mp found
  rw [Token.framed_inner] at member
  exact (unrelated index mark).noMaterial old oldFound strips.two_le member

include stripping framing framedStripping unrelated

/-- Framing words that are unrelated to them changes nothing about which materials are stripped. -/
theorem stripsAt_framed_iff :
    rule.StripsAt framedAfter framed index ↔ rule.StripsAt after tokens index := by
  induction index using Nat.strongRecOn with
  | ind index ih =>
      have sameBlank : ∀ {index : Nat}, BlankAt framed index ↔ BlankAt tokens index :=
        framing.samePlain.blankAt_iff
      -- An earlier token that is not framed has become the same on both sides.
      have sameBefore : ∀ earlier < index, ¬ marked earlier →
          framedAfter[earlier]? = after[earlier]? := by
        intro earlier lower unmarked
        have same := framing.keeps earlier unmarked
        by_cases strips : rule.StripsAt after tokens earlier
        · rw [framedStripping.strips earlier ((ih earlier lower).mpr strips),
            stripping.strips earlier strips, same]
        · rw [framedStripping.keeps earlier fun also => strips ((ih earlier lower).mp also),
            stripping.keeps earlier strips, same]
      constructor
      · intro strips
        have late := strips.two_le
        have unmarked : ¬ marked index := fun mark =>
          not_stripsAt_of_marked framing unrelated mark strips
        obtain ⟨token, found, delimited, closed, member⟩ := strips.material
        rw [framing.keeps index unmarked] at found
        have freePreposition : ¬ marked (index - 2) := by
          intro mark
          obtain ⟨word, wordFound, reads⟩ := strips.preposition
          rw [framedStripping.keeps _ (not_stripsAt_of_marked framing unrelated mark),
            framing.frames _ mark] at wordFound
          obtain ⟨old, _, rfl⟩ := Option.map_eq_some_iff.mp wordFound
          cases (Token.isWord_iff.mp reads).1
        have unmarkedNext : ¬ marked (index + 1) := by
          intro mark
          rcases (unrelated _ mark).front with early | blank
          · omega
          · exact not_blankAt_of_kind found (by simp [delimited]) blank
        refine ⟨late, ⟨token, found, delimited, closed, member⟩, sameBlank.mp strips.gap, ?_, ?_⟩
        · have preposition := strips.preposition
          rwa [WordAt, sameBefore _ (by omega) freePreposition] at preposition
        · rw [← framing.keeps _ unmarkedNext]
          exact strips.free
      · intro strips
        have late := strips.two_le
        obtain ⟨token, found, delimited, closed, member⟩ := strips.material
        have unmarked := framing.not_marked_of_kind found (by simp [delimited])
        have freePreposition : ¬ marked (index - 2) := by
          intro mark
          have gapAt : index - 2 + 1 = index - 1 := by omega
          have materialAt : index - 2 + 2 = index := by omega
          exact (unrelated _ mark).noPreposition token (gapAt.symm ▸ strips.gap)
            (materialAt.symm ▸ found) delimited
        refine ⟨late, ⟨token, by rw [framing.keeps index unmarked]; exact found, delimited, closed,
          member⟩, sameBlank.mpr strips.gap, ?_, ?_⟩
        · have preposition := strips.preposition
          rwa [WordAt, ← sameBefore _ (by omega) freePreposition] at preposition
        · intro next nextFound
          cases oldNext : tokens[index + 1]? with
          | none =>
              rw [framing.samePlain.getElem?_eq_none_iff.mpr oldNext] at nextFound
              cases nextFound
          | some old =>
              rcases framing.getElem?_eq oldNext with kept | ⟨_, isWord, _, _⟩
              · cases nextFound.symm.trans kept
                exact strips.free next oldNext
              · have run := strips.free old oldNext
                simp [Token.isRun, isWord] at run

end Framed

end MaterialQuality

section Shapes

variable {rule : MaterialQuality} {tokens after : List Token} {index : Nat}

theorem PlacedAt.lt_two (target : PlacedAt tokens index) : index < 2 := by
  rcases target.first with ⟨_, rfl⟩ | ⟨_, rfl⟩ <;> omega

theorem PlacedAt.unrelated (rule : MaterialQuality) (target : PlacedAt tokens index) :
    rule.Unrelated tokens index := by
  have early := target.lt_two
  refine ⟨.inl early, fun _ _ late => absurd late (by omega), fun token _ found delimited => ?_⟩
  obtain ⟨placed, sameFound, reads⟩ := target.placed
  cases found.symm.trans sameFound
  have isWord := (Token.isWord_iff.mp reads).1
  rw [delimited] at isWord
  cases isWord

theorem PutTogetherAt.unrelated (other : "ANOTHER".toList ∉ rule.materials)
    (together : PutTogetherAt tokens index) : rule.Unrelated tokens index := by
  refine ⟨.inr together.gap, fun token found _ => ?_, fun token blank found _ => ?_⟩
  · cases found.symm.trans together.getElem?_eq
    exact other
  · have bound := (List.getElem?_eq_some_iff.mp found).1
    exact not_statementEndsAt_of_blankAt blank bound together.ends

theorem placedAt_congr (plain : SamePlain tokens after)
    (name : index < 2 → (NameAt after index ↔ NameAt tokens index))
    (placed : WordAt after (index + 2) "PLACED".toList ↔ WordAt tokens (index + 2) "PLACED".toList)
    (assigned : WordAt after (index + 4) "AS".toList ↔ WordAt tokens (index + 4) "AS".toList) :
    PlacedAt after index ↔ PlacedAt tokens index := by
  have sameBlank : ∀ {index : Nat}, BlankAt after index ↔ BlankAt tokens index := plain.blankAt_iff
  constructor
  · intro target
    have first := target.first
    rw [sameBlank] at first
    exact ⟨first, (name target.lt_two).mp target.name, sameBlank.mp target.gap,
      placed.mp target.placed, sameBlank.mp target.between, assigned.mp target.assigned⟩
  · intro target
    have first := target.first
    rw [← sameBlank] at first
    exact ⟨first, (name target.lt_two).mpr target.name, sameBlank.mpr target.gap,
      placed.mpr target.placed, sameBlank.mpr target.between, assigned.mpr target.assigned⟩

theorem putTogetherAt_congr (plain : SamePlain tokens after)
    (put : 4 ≤ index → WordAt tokens (index - 2) "TOGETHER".toList →
      (WordAt after (index - 4) "PUT".toList ↔ WordAt tokens (index - 4) "PUT".toList))
    (together : 4 ≤ index → (WordAt after (index - 2) "TOGETHER".toList ↔
      WordAt tokens (index - 2) "TOGETHER".toList))
    (operand : 4 ≤ index → (after[index]? = some ⟨.word, "ANOTHER".toList⟩ ↔
      tokens[index]? = some ⟨.word, "ANOTHER".toList⟩)) :
    PutTogetherAt after index ↔ PutTogetherAt tokens index := by
  have sameBlank : ∀ {index : Nat}, BlankAt after index ↔ BlankAt tokens index := plain.blankAt_iff
  constructor
  · intro found
    have isOperand := (operand found.four_le).mp found.getElem?_eq
    have isTogether := (together found.four_le).mp found.together
    exact ⟨found.four_le, (put found.four_le isTogether).mp found.put,
      sameBlank.mp found.between, isTogether, sameBlank.mp found.gap, ⟨_, isOperand, by decide⟩,
      ⟨_, isOperand, rfl, by decide⟩, plain.statementEndsAt_iff.mp found.ends⟩
  · intro found
    have isOperand := (operand found.four_le).mpr found.getElem?_eq
    exact ⟨found.four_le, (put found.four_le found.together).mpr found.put,
      sameBlank.mpr found.between, (together found.four_le).mpr found.together,
      sameBlank.mpr found.gap, ⟨_, isOperand, by decide⟩, ⟨_, isOperand, rfl, by decide⟩,
      plain.statementEndsAt_iff.mpr found.ends⟩

theorem placedAt_iff_of_stripsExactly (stripping : rule.StripsExactly .ofRun tokens after)
    (canonical : ∀ material ∈ rule.materials, CanonicalWord material)
    (noPlaced : "PLACED".toList ∉ rule.materials) (noAs : "AS".toList ∉ rule.materials) :
    PlacedAt after index ↔ PlacedAt tokens index := by
  refine placedAt_congr stripping.samePlain (fun early => ?_)
    (stripping.wordAt_iff canonical noPlaced) (stripping.wordAt_iff canonical noAs)
  have kept : ¬ rule.StripsAt after tokens index := fun strips => absurd strips.two_le (by omega)
  rw [NameAt, NameAt, stripping.keeps index kept]

theorem putTogetherAt_iff_of_stripsExactly (stripping : rule.StripsExactly .ofRun tokens after)
    (canonical : ∀ material ∈ rule.materials, CanonicalWord material)
    (noPut : "PUT".toList ∉ rule.materials) (noTogether : "TOGETHER".toList ∉ rule.materials)
    (noAnother : "ANOTHER".toList ∉ rule.materials) :
    PutTogetherAt after index ↔ PutTogetherAt tokens index := by
  refine putTogetherAt_congr stripping.samePlain (fun _ _ => stripping.wordAt_iff canonical noPut)
    (fun _ => stripping.wordAt_iff canonical noTogether) fun _ => ?_
  by_cases strips : rule.StripsAt after tokens index
  · obtain ⟨token, found, delimited, _, member⟩ := strips.material
    rw [stripping.strips index strips, found]
    constructor
    · intro same
      have text : token.inner = "ANOTHER".toList := congrArg Token.text (Option.some.inj same)
      exact absurd (text ▸ member) noAnother
    · intro same
      cases same
      cases delimited
  · rw [stripping.keeps index strips]

/-- An operand is no word of `PLACED AS`, and it stands too far behind to be the target. -/
theorem placedAt_iff_of_operands (framing : FramesExactly (PutTogetherAt tokens) tokens after) :
    PlacedAt after index ↔ PlacedAt tokens index := by
  have otherWord : ∀ {index : Nat} {word : Text}, word ≠ "ANOTHER".toList →
      (WordAt after index word ↔ WordAt tokens index word) := by
    intro index word differs
    rw [framing.wordAt_iff]
    exact and_iff_left_of_imp fun reads mark => differs (wordAt_unique reads mark.operand)
  refine placedAt_congr framing.samePlain (fun early => ?_) (otherWord (by decide))
    (otherWord (by decide))
  rw [framing.nameAt_iff]
  exact and_iff_left_of_imp fun _ mark => absurd mark.four_le (by omega)

/-- `PLACED` stands behind a target, where `TOGETHER` would stand behind `PUT`. -/
theorem putTogetherAt_iff_of_targets (framing : FramesExactly (PlacedAt tokens) tokens after) :
    PutTogetherAt after index ↔ PutTogetherAt tokens index := by
  refine putTogetherAt_congr framing.samePlain (fun late together => ?_) (fun late => ?_)
    fun late => ?_
  · rw [framing.wordAt_iff]
    refine and_iff_left_of_imp fun _ mark => ?_
    have behind : index - 4 + 2 = index - 2 := by omega
    have differs : "PLACED".toList ≠ "TOGETHER".toList := by decide
    exact differs (wordAt_unique (behind ▸ mark.placed) together)
  · rw [framing.wordAt_iff]
    exact and_iff_left_of_imp fun _ mark => absurd mark.lt_two (by omega)
  · rw [framing.keeps index fun mark => absurd mark.lt_two (by omega)]

end Shapes

namespace Rule

variable {rule other : Rule}

/-- Each of two rules corrects the same tokens before and after the other one. -/
structure Independent (rule other : Rule) : Prop where
  canonical : rule.Canonical ∧ other.Canonical
  same : ∀ {tokens}, LineTokens tokens → ∀ index,
    (rule.CorrectsAt (other.corrected tokens) index ↔ rule.CorrectsAt tokens index) ∧
      (other.CorrectsAt (rule.corrected tokens) index ↔ other.CorrectsAt tokens index)
  apart : ∀ {tokens index}, rule.CorrectsAt tokens index → ¬ other.CorrectsAt tokens index

namespace Independent

theorem symm (independent : Independent rule other) : Independent other rule :=
  ⟨independent.canonical.symm, fun line index => (independent.same line index).symm,
    fun corrects also => independent.apart also corrects⟩

section Line

variable {tokens : List Token} (independent : Independent rule other) (line : LineTokens tokens)
include independent line

theorem count_corrected : (other.rewrite (rule.corrected tokens)).2 = (other.rewrite tokens).2 :=
  count_rewrite_congr line independent.canonical.2
    (lineTokens_corrected line independent.canonical.1)
    (samePlain_corrected line independent.canonical.1).length
    fun index => (independent.same line index).2

theorem corrected_comm :
    other.corrected (rule.corrected tokens) = rule.corrected (other.corrected tokens) := by
  obtain ⟨canonical, otherCanonical⟩ := independent.canonical
  have afterRule := lineTokens_corrected line canonical
  have afterOther := lineTokens_corrected line otherCanonical
  apply List.ext_getElem?
  intro index
  obtain ⟨sameRule, sameOther⟩ := independent.same line index
  by_cases corrects : rule.CorrectsAt tokens index
  · have keeps := independent.apart corrects
    rw [getElem?_of_not_correctsAt afterRule otherCanonical fun also => keeps (sameOther.mp also),
      getElem?_of_correctsAt line canonical corrects,
      getElem?_of_correctsAt afterOther canonical (sameRule.mpr corrects),
      getElem?_of_not_correctsAt line otherCanonical keeps]
  · have still : ¬ rule.CorrectsAt (other.corrected tokens) index :=
      fun also => corrects (sameRule.mp also)
    rw [getElem?_of_not_correctsAt afterOther canonical still]
    by_cases otherCorrects : other.CorrectsAt tokens index
    · rw [getElem?_of_correctsAt afterRule otherCanonical (sameOther.mpr otherCorrects),
        getElem?_of_not_correctsAt line canonical corrects,
        getElem?_of_correctsAt line otherCanonical otherCorrects]
    · rw [getElem?_of_not_correctsAt afterRule otherCanonical
          fun also => otherCorrects (sameOther.mp also),
        getElem?_of_not_correctsAt line canonical corrects,
        getElem?_of_not_correctsAt line otherCanonical otherCorrects]

end Line

variable (independent : Independent rule other)
include independent

theorem correctLine_comm (line : Text) :
    (other.correctLine (rule.correctLine line).1).1 =
      (rule.correctLine (other.correctLine line).1).1 := by
  rcases passthrough_or_render line with passed | ⟨tokens, lineTokens, rfl⟩
  · simp only [correctLine_eq_of_passthrough _ passed]
  · have afterRule := lineTokens_corrected lineTokens independent.canonical.1
    have afterOther := lineTokens_corrected lineTokens independent.canonical.2
    simp only [correctLine_render lineTokens, correctLine_render afterRule,
      correctLine_render afterOther, independent.corrected_comm lineTokens]

theorem count_correctLine (line : Text) :
    (other.correctLine (rule.correctLine line).1).2 = (other.correctLine line).2 := by
  rcases passthrough_or_render line with passed | ⟨tokens, lineTokens, rfl⟩
  · simp only [correctLine_eq_of_passthrough _ passed]
  · have afterRule := lineTokens_corrected lineTokens independent.canonical.1
    simp only [correctLine_render lineTokens, correctLine_render afterRule,
      independent.count_corrected lineTokens]

theorem apply_comm (text : Text) :
    (other.apply (rule.apply text).1).1 = (rule.apply (other.apply text).1).1 := by
  simp only [apply, overLines_overLines fun line => @newline_not_mem_correctLine _ line]
  exact overLines_fst_congr independent.correctLine_comm text

theorem count_apply (text : Text) :
    (other.apply (rule.apply text).1).2 = (other.apply text).2 := by
  simp only [apply, overLines_overLines fun line => @newline_not_mem_correctLine _ line]
  exact overLines_snd_congr independent.count_correctLine text

end Independent

/-- Independent rules may run in any order. -/
theorem applyRules_perm {rules others : List Rule} (independent : rules.Pairwise Independent)
    (perm : rules.Perm others) (text : Text) :
    (applyRules others text).1 = (applyRules rules text).1 ∧
      (applyRules others text).2.Perm (applyRules rules text).2 := by
  induction perm generalizing text with
  | nil => exact ⟨rfl, .rfl⟩
  | cons rule _ ih =>
      obtain ⟨sameText, sameCounts⟩ := ih (List.pairwise_cons.mp independent).2 (rule.apply text).1
      exact ⟨sameText, sameCounts.cons _⟩
  | swap rule other rest =>
      have both := (List.pairwise_cons.mp independent).1 rule List.mem_cons_self
      simp only [applyRules, both.apply_comm, both.count_apply, both.symm.count_apply]
      exact ⟨trivial, .swap _ _ _⟩
  | trans first _ ihFirst ihSecond =>
      have later := (first.pairwise_iff fun independent => independent.symm).mp independent
      obtain ⟨firstText, firstCounts⟩ := ihFirst independent text
      obtain ⟨secondText, secondCounts⟩ := ihSecond later text
      exact ⟨secondText.trans firstText, secondCounts.trans firstCounts⟩

theorem applyRules_concat (rules : List Rule) (rule : Rule) (text : Text) :
    (applyRules (rules ++ [rule]) text).1 = (rule.apply (applyRules rules text).1).1 := by
  induction rules generalizing text with
  | nil => rfl
  | cons first rest ih => exact ih (first.apply text).1

/-- Every one of independent rules is done when all of them have run, since it might have been the
last one. -/
theorem apply_applyRules {rules : List Rule} (independent : rules.Pairwise Independent)
    (canonical : rule.Canonical) (member : rule ∈ rules) (text : Text) :
    rule.apply (applyRules rules text).1 = ((applyRules rules text).1, 0) := by
  obtain ⟨front, back, rfl⟩ := List.append_of_mem member
  have perm : (front ++ rule :: back).Perm ((front ++ back) ++ [rule]) :=
    List.perm_middle.trans (List.perm_append_singleton rule _).symm
  rw [← (applyRules_perm independent perm text).1, applyRules_concat, apply_apply canonical]

section Standard

variable {tokens : List Token} {quality : MaterialQuality}

theorem framesExactly_placedAt (line : LineTokens tokens) :
    FramesExactly (PlacedAt tokens) tokens ((assignmentTarget .standard).corrected tokens) :=
  (framesExactly_target line .standard).congr fun _ => targetAt_standard_iff

theorem framesExactly_putTogetherAt (line : LineTokens tokens) :
    FramesExactly (PutTogetherAt tokens) tokens ((keywordOperand .standard).corrected tokens) :=
  (framesExactly_operand line .standard).congr fun _ => isOperandAt_standard_iff

theorem independent_target_operand :
    Independent (assignmentTarget .standard) (keywordOperand .standard) := by
  refine ⟨⟨trivial, trivial⟩, fun line index => ⟨?_, ?_⟩, fun target operand => ?_⟩
  · simp only [CorrectsAt, targetAt_standard_iff]
    exact placedAt_iff_of_operands (framesExactly_putTogetherAt line)
  · simp only [CorrectsAt, isOperandAt_standard_iff]
    exact putTogetherAt_iff_of_targets (framesExactly_placedAt line)
  · have early := (targetAt_standard_iff.mp target).lt_two
    have late := (isOperandAt_standard_iff.mp operand).four_le
    omega

variable (canonical : ∀ material ∈ quality.materials, CanonicalWord material)
include canonical

theorem independent_target_quality (noPlaced : "PLACED".toList ∉ quality.materials)
    (noAs : "AS".toList ∉ quality.materials) :
    Independent (assignmentTarget .standard) (materialQuality quality) := by
  refine ⟨⟨trivial, canonical⟩, fun line index => ⟨?_, ?_⟩, fun target strips => ?_⟩
  · simp only [CorrectsAt, targetAt_standard_iff]
    exact placedAt_iff_of_stripsExactly (stripsExactly_quality line canonical) canonical noPlaced
      noAs
  · have framing := framesExactly_placedAt line
    exact MaterialQuality.stripsAt_framed_iff (stripsExactly_quality line canonical) framing
      (stripsExactly_quality (framing.lineTokens line) canonical)
      fun index target => target.unrelated quality
  · have early := (targetAt_standard_iff.mp target).lt_two
    have late := strips.two_le
    omega

theorem independent_operand_quality (noPut : "PUT".toList ∉ quality.materials)
    (noTogether : "TOGETHER".toList ∉ quality.materials)
    (noAnother : "ANOTHER".toList ∉ quality.materials) :
    Independent (keywordOperand .standard) (materialQuality quality) := by
  refine ⟨⟨trivial, canonical⟩, fun line index => ⟨?_, ?_⟩, fun operand strips => ?_⟩
  · simp only [CorrectsAt, isOperandAt_standard_iff]
    exact putTogetherAt_iff_of_stripsExactly (stripsExactly_quality line canonical) canonical noPut
      noTogether noAnother
  · have framing := framesExactly_putTogetherAt line
    exact MaterialQuality.stripsAt_framed_iff (stripsExactly_quality line canonical) framing
      (stripsExactly_quality (framing.lineTokens line) canonical)
      fun index together => together.unrelated noAnother
  · obtain ⟨_, found, delimited, _⟩ := strips.material
    cases found.symm.trans (isOperandAt_standard_iff.mp operand).getElem?_eq
    cases delimited

theorem independent_withMaterials {materials : List Text} {preposition : Text}
    (same : MaterialQuality.ofWords materials preposition = quality)
    (apart : ∀ word ∈ ["PLACED", "AS", "PUT", "TOGETHER", "ANOTHER"].map String.toList,
      word ∉ quality.materials) :
    (withMaterials materials preposition).Pairwise Independent := by
  simp only [List.map_cons, List.map_nil, List.forall_mem_cons] at apart
  obtain ⟨noPlaced, noAs, noPut, noTogether, noAnother, _⟩ := apart
  rw [withMaterials, same]
  refine .cons ?_ (.cons ?_ (.cons (by simp) .nil))
  · simp only [List.forall_mem_cons, List.not_mem_nil, false_imp_iff, implies_true, and_true]
    exact ⟨independent_target_operand, independent_target_quality canonical noPlaced noAs⟩
  · simp only [List.forall_mem_cons, List.not_mem_nil, false_imp_iff, implies_true, and_true]
    exact independent_operand_quality canonical noPut noTogether noAnother

end Standard

/-- The three rules give the same text and the same counts in every order, and leave nothing to do
for any of them. -/
theorem withMaterials_any_order (materials : List Text) (preposition : Text)
    (canonical : ∀ material ∈ materials, CanonicalWord material)
    (isCanonical : CanonicalWord preposition)
    (apart : ∀ word ∈ ["PLACED", "AS", "PUT", "TOGETHER", "ANOTHER"].map String.toList,
      word ∉ materials) (text : Text) :
    (∀ rules : List Rule, rules.Perm (withMaterials materials preposition) →
      (applyRules rules text).1 = (applyRules (withMaterials materials preposition) text).1 ∧
        (applyRules rules text).2.Perm
          (applyRules (withMaterials materials preposition) text).2) ∧
      ∀ rule ∈ withMaterials materials preposition,
        rule.apply (applyRules (withMaterials materials preposition) text).1 =
          ((applyRules (withMaterials materials preposition) text).1, 0) := by
  have same := MaterialQuality.ofWords_of_canonical canonical isCanonical
  have independent := @independent_withMaterials ⟨materials, preposition⟩ canonical _ _ same apart
  have eachCanonical : ∀ rule ∈ withMaterials materials preposition, rule.Canonical := by
    rw [withMaterials, same]
    simp only [List.forall_mem_cons, List.not_mem_nil, false_imp_iff, implies_true, and_true]
    exact ⟨trivial, trivial, canonical⟩
  refine ⟨fun rules perm => applyRules_perm independent perm.symm text, fun rule member => ?_⟩
  exact apply_applyRules independent (eachCanonical rule member) member text

/-- The preposition is a material and the target of the assignment, and it serves as the preposition
of the next material once it is bare. -/
theorem withMaterials_any_order_cascade :
    let materials := ["OF".toList, "IRON".toList]
    let text := "OF PLACED AS CUP of |OF| |IRON| PUT TOGETHER ANOTHER.".toList
    (∀ material ∈ materials, CanonicalWord material) ∧ CanonicalWord "OF".toList ∧
      (∀ word ∈ ["PLACED", "AS", "PUT", "TOGETHER", "ANOTHER"].map String.toList,
        word ∉ materials) ∧
      applyRules (withMaterials materials "OF".toList) text =
        ("|OF| PLACED AS CUP of OF IRON PUT TOGETHER |ANOTHER|.".toList,
          [("assignment_target", 1), ("keyword_operand", 1), ("material_quality", 2)]) ∧
      (applyRules (withMaterials materials "OF".toList).reverse text).1 =
        (applyRules (withMaterials materials "OF".toList) text).1 ∧
      (∀ text, ∀ rule ∈ standard, rule.apply (applyRules standard text).1 =
        ((applyRules standard text).1, 0)) := by
  intro materials text
  have canonical : ∀ material ∈ materials, CanonicalWord material := by
    simp only [materials, List.forall_mem_cons, List.not_mem_nil, false_imp_iff, implies_true,
      and_true]
    exact ⟨canonicalWord_of_tests (by decide), canonicalWord_of_tests (by decide)⟩
  have isCanonical : CanonicalWord "OF".toList := canonicalWord_of_tests (by decide)
  have apart : ∀ word ∈ ["PLACED", "AS", "PUT", "TOGETHER", "ANOTHER"].map String.toList,
      word ∉ materials := by decide
  refine ⟨canonical, isCanonical, apart, by decide +kernel, ?_, fun text => ?_⟩
  · exact ((withMaterials_any_order _ _ canonical isCanonical apart text).1 _
      (List.reverse_perm _)).1
  · exact (withMaterials_any_order _ _ MaterialQuality.standardMaterials_canonical
      MaterialQuality.standardPreposition_canonical (by decide) text).2

end Rule

end NameFraming
