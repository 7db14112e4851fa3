import NameFraming.Proofs.Settings

/-! Vocabularies that are made from one another. A vocabulary is never changed: every step makes a
new one, and what the new one reserves is decided, word by word, by the last step that mentions the
word. Steps compare words by their upper-case form and hold them in it; this is sound because
upper-casing settles at once. -/

namespace NameFraming

/-- A way to make a new vocabulary from one. -/
inductive VocabularyStep where
  | extend (words : List Text)
  | remove (words : List Text)

namespace VocabularyStep

def words : VocabularyStep → List Text
  | extend words => words
  | remove words => words

/-- A step mentions a word in whatever case it is written. -/
def Mentions (step : VocabularyStep) (word : Text) : Prop :=
  ∃ other ∈ step.words, upper other = upper word

end VocabularyStep

namespace Vocabulary

variable {vocabulary : Vocabulary} {steps : List VocabularyStep} {word : Text}

def derive (vocabulary : Vocabulary) : VocabularyStep → Vocabulary
  | .extend words => vocabulary.extended words
  | .remove words => vocabulary.without words

/-- The vocabulary at the end of a list of steps. -/
def deriveAll (vocabulary : Vocabulary) (steps : List VocabularyStep) : Vocabulary :=
  steps.foldl derive vocabulary

/-- All vocabularies on the way: the first one, and one more for every step. -/
def history (vocabulary : Vocabulary) : List VocabularyStep → List Vocabulary
  | [] => [vocabulary]
  | step :: steps => vocabulary :: (vocabulary.derive step).history steps

section History

theorem getElem?_history (vocabulary : Vocabulary) (steps : List VocabularyStep) (count : Nat) :
    (vocabulary.history steps)[count]? =
      if count ≤ steps.length then some (vocabulary.deriveAll (steps.take count)) else none := by
  induction steps generalizing vocabulary count with
  | nil => cases count <;> simp [history, deriveAll]
  | cons step steps ih =>
      cases count with
      | zero => simp [history, deriveAll]
      | succ count => simp [history, deriveAll, ih]

theorem history_prefix (vocabulary : Vocabulary) (steps later : List VocabularyStep) :
    vocabulary.history steps <+: vocabulary.history (steps ++ later) := by
  induction steps generalizing vocabulary with
  | nil => cases later <;> simp [history]
  | cons step steps ih => simpa [history, List.cons_prefix_cons] using ih (vocabulary.derive step)

end History

section Answers

/-- The last step that mentions the word extends the vocabulary. -/
def LastExtends (steps : List VocabularyStep) (word : Text) : Prop :=
  ∃ before words later, steps = before ++ .extend words :: later ∧
    (VocabularyStep.extend words).Mentions word ∧ ∀ step ∈ later, ¬ step.Mentions word

theorem lastExtends_cons_iff {step : VocabularyStep} :
    LastExtends (step :: steps) word ↔
      LastExtends steps word ∨
        (∀ later ∈ steps, ¬ later.Mentions word) ∧
          ∃ words, step = .extend words ∧ step.Mentions word := by
  constructor
  · intro ⟨before, words, later, split, mentions, silent⟩
    cases before with
    | nil =>
        cases split
        exact .inr ⟨silent, words, rfl, mentions⟩
    | cons first before =>
        cases split
        exact .inl ⟨before, words, later, rfl, mentions, silent⟩
  · intro either
    rcases either with ⟨before, words, later, rfl, mentions, silent⟩ |
      ⟨silent, words, rfl, mentions⟩
    · exact ⟨step :: before, words, later, rfl, mentions, silent⟩
    · exact ⟨[], words, steps, rfl, mentions, silent⟩

theorem isKeyword_derive_iff {step : VocabularyStep} :
    (vocabulary.derive step).isKeyword word = true ↔
      (∃ words, step = .extend words ∧ step.Mentions word) ∨
        ¬ step.Mentions word ∧ vocabulary.isKeyword word = true := by
  cases step with
  | extend words =>
      rw [derive, isKeyword_extended_iff]
      by_cases mentions : (VocabularyStep.extend words).Mentions word
      · simpa [mentions] using .inl mentions
      · simp only [mentions, and_false, exists_false, not_false_iff, true_and, false_or]
        exact or_iff_right mentions
  | remove words =>
      rw [derive, isKeyword_without_iff, and_comm]
      simp [VocabularyStep.Mentions, VocabularyStep.words]

theorem isKeyword_deriveAll_iff :
    (vocabulary.deriveAll steps).isKeyword word = true ↔
      LastExtends steps word ∨
        (∀ step ∈ steps, ¬ step.Mentions word) ∧ vocabulary.isKeyword word = true := by
  induction steps generalizing vocabulary with
  | nil => simp [deriveAll, LastExtends]
  | cons step steps ih =>
      have later : vocabulary.deriveAll (step :: steps) =
          (vocabulary.derive step).deriveAll steps := rfl
      rw [later, ih, isKeyword_derive_iff, lastExtends_cons_iff, List.forall_mem_cons,
        and_or_left, or_assoc, and_assoc, @and_left_comm (¬ step.Mentions word)]

end Answers

/-- What a vocabulary is after some steps from a list of words. -/
structure Reflects (initial : List Text) (steps : List VocabularyStep) (vocabulary : Vocabulary) :
    Prop where
  answers : ∀ word, vocabulary.isKeyword word = true ↔
    LastExtends steps word ∨
      (∀ step ∈ steps, ¬ step.Mentions word) ∧ ∃ other ∈ initial, upper other = upper word
  upperCase : ∀ word ∈ vocabulary.words, upper word = word
  caseless : ∀ word other, upper word = upper other →
    vocabulary.isKeyword word = vocabulary.isKeyword other
  ascending : vocabulary.words.Pairwise (· < ·)
  listed : ∀ word, word ∈ vocabulary.words ↔ upper word = word ∧ vocabulary.isKeyword word = true
  remade : ofWords vocabulary.words = vocabulary

theorem reflects_deriveAll (initial : List Text) (steps : List VocabularyStep) :
    Reflects initial steps ((ofWords initial).deriveAll steps) where
  answers word := by rw [isKeyword_deriveAll_iff, isKeyword_ofWords_iff]
  upperCase := upper_of_mem _
  caseless word other := isKeyword_congr
  ascending := ascending _
  listed word := mem_words_iff
  remade := ofWords_words _

/-- Every vocabulary on the way, also the first and the last, is what the steps up to it make of the
words, and steps that come later leave it as it is. The vocabulary of settings is one more case: the
reserved words less the materials, and then the extra keywords. -/
theorem reflects_history :
    (∀ (initial : List Text) (steps : List VocabularyStep),
      (∀ count ≤ steps.length, ∃ vocabulary,
        ((ofWords initial).history steps)[count]? = some vocabulary ∧
          Reflects initial (steps.take count) vocabulary) ∧
      ∀ later, (ofWords initial).history steps <+: (ofWords initial).history (steps ++ later)) ∧
    ∀ settings : Settings, settings.Accepted → ∀ word,
      (Framer.ofSettings settings).isKeyword word = true ↔
        upper word ∈ settings.extraKeywords ∨
          upper word ∈ reservedWords ∧ upper word ∉ settings.materialQualities := by
  refine ⟨fun initial steps => ⟨fun count made => ?_, history_prefix _ steps⟩, ?_⟩
  · refine ⟨_, ?_, reflects_deriveAll initial (steps.take count)⟩
    rw [getElem?_history, if_pos made]
  · intro settings accepted word
    exact accepted.canonical.isKeyword_iff

/-- One word in three spellings, of which one is longer: it is taken away as a material and comes
back as an extra keyword, while another material is gone. -/
theorem reflects_history_spellings :
    ∃ settings : Settings, settings.Accepted ∧
      settings.materialQualities = ["STRASSE".toList, "COPPER".toList] ∧
      settings.extraKeywords = ["STRASSE".toList] ∧
      (Framer.ofSettings settings).isKeyword "Straße".toList = true ∧
      (Framer.ofSettings settings).isKeyword "Copper".toList = false := by
  have accepted : Settings.Accepted
      { materialQualities := ["STRASSE".toList, "COPPER".toList]
        extraKeywords := ["STRASSE".toList] } :=
    ⟨[("material_qualities", .list [.text "straße".toList, .text " copper".toList]),
      ("extra_keywords", .list [.text "Strasse".toList])], rfl⟩
  refine ⟨_, accepted, rfl, rfl, ?_, ?_⟩
  · exact (reflects_history.2 _ accepted _).mpr (.inl (by decide +kernel))
  · rw [Bool.eq_false_iff, ne_eq, reflects_history.2 _ accepted]
    decide +kernel

end Vocabulary

end NameFraming
