import NameFraming.Proofs.Framer.Conservation
import NameFraming.Proofs.Settings

/-! What a rule makes of a line, index by index: where it corrects, what is read there afterwards,
and that its count is the number of these places. Whatever the rule is, a line that it has corrected
gives it nothing more to do. -/

namespace NameFraming

theorem map_reread_of_wellFormed {tokens : List Token} (wellFormed : TokensWellFormed tokens) :
    tokens.map Token.reread = tokens := by
  refine (List.map_congr_left fun token member => ?_).trans (List.map_id tokens)
  exact Token.reread_of_wellFormed (wellFormed.each token member)

theorem conserves_render {marked : Nat → Prop} [DecidablePred marked] {balance : Int}
    {tokens after : List Token} (length : after.length = tokens.length)
    (each : ∀ (index : Nat) (old new : Token), tokens[index]? = some old →
      after[index]? = some new →
      Conserves (if marked index then balance else 0) old.text new.text) :
    Conserves (balance * (List.range tokens.length).countP (marked ·)) (render tokens)
      (render after) := by
  induction tokens generalizing marked after with
  | nil =>
      rw [List.length_nil, List.length_eq_zero_iff] at length
      subst length
      exact (Conserves.refl _).cast (by simp)
  | cons old rest ih =>
      cases after with
      | nil => cases length
      | cons new later =>
          have first := each 0 old new rfl rfl
          have others := @ih (fun index => marked (index + 1)) _ later (Nat.succ.inj length)
            fun index => each (index + 1)
          refine (first.append others).cast ?_
          rw [List.length_cons, List.range_succ_eq_map, List.countP_cons, List.countP_map]
          by_cases mark : marked 0
          · simp [mark, Function.comp_def, Int.mul_add, Int.add_comm]
          · simp [mark, Function.comp_def]

section Lines

variable {first second : Text → Text × Nat}

theorem overLines_overLines (noBreak : ∀ line, '\n' ∉ line → '\n' ∉ (first line).1) (text : Text) :
    overLines second (overLines first text).1 =
      overLines (fun line => second (first line).1) text := by
  have lines := lines_overLines noBreak text
  simp only [overLines, List.map_map, Function.comp_def] at lines ⊢
  simp only [lines, List.map_map, Function.comp_def]

theorem overLines_fst_congr (same : ∀ line, (first line).1 = (second line).1) (text : Text) :
    (overLines first text).1 = (overLines second text).1 := by
  simp only [overLines, List.map_map, Function.comp_def, same]

theorem overLines_snd_congr (same : ∀ line, (first line).2 = (second line).2) (text : Text) :
    (overLines first text).2 = (overLines second text).2 := by
  simp only [overLines, List.map_map, Function.comp_def, same]

end Lines

/-- A material that has kept its delimiters keeps them when the rule comes by again. -/
theorem MaterialQuality.StripsExactly.settled {rule : MaterialQuality} {tokens after : List Token}
    (stripping : rule.StripsExactly .ofRun tokens after) (index : Nat) :
    ¬ rule.StripsAt after after index := by
  intro strips
  obtain ⟨token, found, delimited, closed, member⟩ := strips.material
  have kept : ¬ rule.StripsAt after tokens index := by
    intro stripped
    rw [stripping.strips index stripped] at found
    obtain ⟨old, _, rfl⟩ := Option.map_eq_some_iff.mp found
    have run := Token.isRun_ofRun old.inner
    simp [Token.isRun, delimited] at run
  have before : tokens[index]? = some token := stripping.keeps index kept ▸ found
  have keptNext : ¬ rule.StripsAt after tokens (index + 1) := fun next =>
    not_blankAt_of_kind before (by simp [delimited]) next.gap
  have free := strips.free
  rw [stripping.keeps (index + 1) keptNext] at free
  exact kept ⟨strips.two_le, ⟨token, before, delimited, closed, member⟩,
    stripping.samePlain.blankAt_iff.mp strips.gap, strips.preposition, free⟩

namespace Rule

variable {rule : Rule} {tokens : List Token} {index : Nat}

/-- What the rule leaves behind can be read again: bare materials are single words. -/
def Canonical : Rule → Prop
  | materialQuality rule => ∀ material ∈ rule.materials, CanonicalWord material
  | _ => True

/-- The tokens of a line after one rule, as they are read from it. -/
def corrected (rule : Rule) (tokens : List Token) : List Token :=
  (rule.rewrite tokens).1.map Token.reread

def CorrectsAt (rule : Rule) (tokens : List Token) (index : Nat) : Prop :=
  match rule with
  | assignmentTarget target => target.TargetAt tokens index
  | keywordOperand operand => operand.IsOperandAt tokens index
  | materialQuality quality => quality.StripsAt (rule.corrected tokens) tokens index

def correction : Rule → Token → Token
  | materialQuality _, token => .ofRun token.inner
  | _, token => token.framed

theorem render_corrected (rule : Rule) (tokens : List Token) :
    render (rule.corrected tokens) = render (rule.rewrite tokens).1 :=
  render_map_reread _

section Line

variable (line : LineTokens tokens)
include line

theorem framesExactly_target (target : AssignmentTarget) :
    FramesExactly (target.TargetAt tokens) tokens
      ((assignmentTarget target).corrected tokens) := by
  have framing := target.framesExactly_rewrite tokens
  rw [corrected, rewrite, map_reread_of_wellFormed (framing.tokensWellFormed line.wellFormed)]
  exact framing

theorem framesExactly_operand (operand : KeywordOperand) :
    FramesExactly (operand.IsOperandAt tokens) tokens
      ((keywordOperand operand).corrected tokens) := by
  have framing := operand.framesExactly_rewrite tokens
  rw [corrected, rewrite, map_reread_of_wellFormed (framing.tokensWellFormed line.wellFormed)]
  exact framing

theorem stripsExactly_quality {quality : MaterialQuality}
    (canonical : (materialQuality quality).Canonical) :
    quality.StripsExactly .ofRun tokens ((materialQuality quality).corrected tokens) :=
  MaterialQuality.stripsExactly_map_reread line.wellFormed canonical

theorem correctLine_render (rule : Rule) :
    rule.correctLine (render tokens) =
      (render (rule.corrected tokens), (rule.rewrite tokens).2) := by
  rw [correctLine_eq, line.tokenize_render, render_corrected]

variable (canonical : rule.Canonical)
include canonical

theorem lineTokens_corrected : LineTokens (rule.corrected tokens) := by
  cases rule with
  | assignmentTarget target => exact (framesExactly_target line target).lineTokens line
  | keywordOperand operand => exact (framesExactly_operand line operand).lineTokens line
  | materialQuality quality =>
      exact (stripsExactly_quality line canonical).lineTokens line canonical

theorem samePlain_corrected : SamePlain tokens (rule.corrected tokens) := by
  cases rule with
  | assignmentTarget target => exact (framesExactly_target line target).samePlain
  | keywordOperand operand => exact (framesExactly_operand line operand).samePlain
  | materialQuality quality => exact (stripsExactly_quality line canonical).samePlain

theorem getElem?_of_correctsAt (corrects : rule.CorrectsAt tokens index) :
    (rule.corrected tokens)[index]? = tokens[index]?.map rule.correction := by
  cases rule with
  | assignmentTarget target => exact (framesExactly_target line target).frames index corrects
  | keywordOperand operand => exact (framesExactly_operand line operand).frames index corrects
  | materialQuality quality => exact (stripsExactly_quality line canonical).strips index corrects

theorem getElem?_of_not_correctsAt (keeps : ¬ rule.CorrectsAt tokens index) :
    (rule.corrected tokens)[index]? = tokens[index]? := by
  cases rule with
  | assignmentTarget target => exact (framesExactly_target line target).keeps index keeps
  | keywordOperand operand => exact (framesExactly_operand line operand).keeps index keeps
  | materialQuality quality => exact (stripsExactly_quality line canonical).keeps index keeps

theorem corrected_eq_self (none : ∀ index, ¬ rule.CorrectsAt tokens index) :
    rule.corrected tokens = tokens := by
  apply List.ext_getElem?
  intro index
  exact getElem?_of_not_correctsAt line canonical (none index)

theorem not_correctsAt_corrected (index : Nat) :
    ¬ rule.CorrectsAt (rule.corrected tokens) index := by
  intro corrects
  cases rule with
  | assignmentTarget target =>
      obtain ⟨before, unmarked⟩ := corrects.of_framesExactly (framesExactly_target line target)
      exact unmarked before
  | keywordOperand operand =>
      obtain ⟨entry, member, found⟩ := corrects
      obtain ⟨before, unmarked⟩ := (KeywordOperand.isOperandAt_iff_of_framesExactly
        (framesExactly_operand line operand) (fun _ => id) entry index).mp found
      exact unmarked ⟨entry, member, before⟩
  | materialQuality quality =>
      have first := stripsExactly_quality line canonical
      have second := stripsExactly_quality (lineTokens_corrected line canonical) canonical
      -- The list that strips nothing of itself is the only one that the rule can make of it.
      have none : quality.StripsExactly .ofRun ((materialQuality quality).corrected tokens)
          ((materialQuality quality).corrected tokens) :=
        ⟨fun index strips => absurd strips (first.settled index), fun _ _ => rfl⟩
      have same := second.unique none
      refine first.settled index ?_
      rw [CorrectsAt, same] at corrects
      exact corrects

theorem corrected_corrected : rule.corrected (rule.corrected tokens) = rule.corrected tokens :=
  corrected_eq_self (lineTokens_corrected line canonical) canonical
    (not_correctsAt_corrected line canonical)

theorem conserves_correction {token : Token} (found : tokens[index]? = some token)
    (corrects : rule.CorrectsAt tokens index) :
    Conserves rule.balance token.text (rule.correction token).text := by
  cases rule with
  | assignmentTarget target => exact .frameWord token.text
  | keywordOperand operand => exact .frameWord token.text
  | materialQuality quality =>
      obtain ⟨_, sameFound, delimited, closed, _⟩ := corrects.material
      cases found.symm.trans sameFound
      have text := Token.text_eq_frameWord (line.wellFormed.at found) delimited closed
      rw [text]
      exact (Conserves.frameWord token.inner).symm

open Classical in
/-- The count of a rule is the number of tokens that it corrects. -/
theorem count_rewrite : (rule.rewrite tokens).2 =
    (List.range tokens.length).countP (rule.CorrectsAt tokens ·) := by
  have length := (samePlain_corrected line canonical).length
  have counted := rule.conserves_rewrite fun token member _ => line.wellFormed.each token member
  rw [← render_corrected] at counted
  have marked : Conserves (rule.balance *
      (List.range tokens.length).countP (rule.CorrectsAt tokens ·)) (render tokens)
      (render (rule.corrected tokens)) := by
    refine conserves_render length fun index old new oldFound newFound => ?_
    by_cases corrects : rule.CorrectsAt tokens index
    · rw [getElem?_of_correctsAt line canonical corrects, oldFound] at newFound
      cases newFound
      rw [if_pos corrects]
      exact conserves_correction line canonical oldFound corrects
    · rw [getElem?_of_not_correctsAt line canonical corrects, oldFound] at newFound
      cases newFound
      rw [if_neg corrects]
      exact .refl _
  have countedPairs := counted.count
  have markedPairs := marked.count
  cases rule <;> simp only [balance] at countedPairs markedPairs <;> omega

theorem count_rewrite_congr {others : List Token} (otherLine : LineTokens others)
    (length : others.length = tokens.length)
    (same : ∀ index, rule.CorrectsAt others index ↔ rule.CorrectsAt tokens index) :
    (rule.rewrite others).2 = (rule.rewrite tokens).2 := by
  have sameMarks : rule.CorrectsAt others = rule.CorrectsAt tokens :=
    funext fun index => propext (same index)
  rw [count_rewrite line canonical, count_rewrite otherLine canonical, length, sameMarks]

end Line

theorem correctLine_eq_of_passthrough (rule : Rule) {line : Text}
    (passed : isPassthrough commentMarker line = true) : rule.correctLine line = (line, 0) := by
  have same := rule.correctLine_of_passthrough passed
  apply Prod.ext
  · exact same
  · have count := (rule.conserves_correctLine line).count
    rw [same] at count
    cases rule <;> simp only [balance] at count <;> omega

theorem passthrough_or_render (line : Text) :
    isPassthrough commentMarker line = true ∨
      ∃ tokens, LineTokens tokens ∧ line = render tokens := by
  cases passed : isPassthrough commentMarker line with
  | true => exact .inl rfl
  | false => exact .inr ⟨_, lineTokens_tokenize passed, (render_tokenize _ _).symm⟩

theorem correctLine_correctLine (canonical : rule.Canonical) (line : Text) :
    (rule.correctLine (rule.correctLine line).1).1 = (rule.correctLine line).1 := by
  rcases passthrough_or_render line with passed | ⟨tokens, lineTokens, rfl⟩
  · rw [rule.correctLine_eq_of_passthrough passed, rule.correctLine_eq_of_passthrough passed]
  · have after := lineTokens_corrected lineTokens canonical
    rw [correctLine_render lineTokens, correctLine_render after,
      corrected_corrected lineTokens canonical]

theorem apply_apply (canonical : rule.Canonical) (text : Text) :
    rule.apply (rule.apply text).1 = ((rule.apply text).1, 0) := by
  have same : (rule.apply (rule.apply text).1).1 = (rule.apply text).1 := by
    simp only [apply, overLines_overLines fun line => @newline_not_mem_correctLine rule line]
    exact overLines_fst_congr (correctLine_correctLine canonical) text
  exact Prod.ext same ((rule.apply_count_eq_zero_iff _).mpr same)

/-- A text that the rule has corrected gives it nothing to count. -/
def Idempotent (rule : Rule) : Prop :=
  ∀ text after count, rule.apply text = (after, count) → rule.apply after = (after, 0)

theorem Canonical.idempotent (canonical : rule.Canonical) : rule.Idempotent := by
  intro text after count applied
  have again := apply_apply canonical text
  rw [applied] at again
  exact again

/-- Markers and operand tables may be anything. Materials have to be words: a blank one turns into
white space, and the preposition before it then stands before the next material. -/
theorem idempotent_of_any_parameters :
    (∀ marker, (assignmentTarget (.ofWords marker)).Idempotent) ∧
      (∀ exceptions, (keywordOperand (.ofPairs exceptions)).Idempotent) ∧
      ∀ materials preposition, (∀ material ∈ materials, CanonicalWord material) →
        (materialQuality (.ofWords materials preposition)).Idempotent := by
  refine ⟨fun marker => ?_, fun exceptions => ?_, fun materials preposition canonical => ?_⟩
  · exact Canonical.idempotent trivial
  · exact Canonical.idempotent trivial
  · refine Canonical.idempotent fun word member => ?_
    obtain ⟨material, listed, rfl⟩ := List.mem_map.mp member
    rw [(canonical material listed).upper]
    exact canonical material listed

/-- The first material that loses its delimiters is the preposition of the second. -/
theorem idempotent_of_any_parameters_cascade :
    let materials := ["OF", "IRON"].map String.toList
    let rule : Rule := materialQuality (.ofWords materials "OF".toList)
    (∀ material ∈ materials, CanonicalWord material) ∧
      rule.apply "OF |OF| |IRON|".toList = ("OF OF IRON".toList, 2) ∧
      rule.apply "OF OF IRON".toList = ("OF OF IRON".toList, 0) := by
  intro materials rule
  have passes : materials.all (fun word => isWord word && upper word == word) = true := by
    decide +kernel
  have canonical : ∀ material ∈ materials, CanonicalWord material := fun material member =>
    canonicalWord_of_tests (List.all_eq_true.mp passes material member)
  have applied : rule.apply "OF |OF| |IRON|".toList = ("OF OF IRON".toList, 2) := by
    decide +kernel
  exact ⟨canonical, applied,
    idempotent_of_any_parameters.2.2 materials "OF".toList canonical _ _ _ applied⟩

example :
    let rule : Rule := materialQuality (.ofWords [" ".toList, "GOLD".toList] "OF".toList)
    rule.apply "OF | | |GOLD|".toList = ("OF   |GOLD|".toList, 1) ∧
      rule.apply "OF   |GOLD|".toList = ("OF   GOLD".toList, 1) := by
  decide +kernel

end Rule

end NameFraming
