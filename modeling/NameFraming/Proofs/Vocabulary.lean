import Mathlib.Data.List.Basic
import NameFraming.Proofs.Text.Uppercasing
import NameFraming.Vocabulary

/-! Which words the operations on vocabularies reserve, and that vocabularies made from words hold
them in order. -/

namespace NameFraming

section Insertion

variable {word : Text} {words : List Text}

theorem mem_insertWord {other : Text} :
    other ∈ insertWord word words ↔ other = word ∨ other ∈ words := by
  induction words with
  | nil => simp [insertWord]
  | cons head rest ih =>
      unfold insertWord
      split
      · simp
      · split
        · simp_all
        · simp only [List.mem_cons, ih]
          exact or_left_comm

theorem insertWord_of_lt (before : ∀ other ∈ words, word < other) :
    insertWord word words = word :: words := by
  cases words with
  | nil => rfl
  | cons head rest => rw [insertWord, if_pos (before head List.mem_cons_self)]

theorem insertWord_ascending (ascending : words.Pairwise (· < ·)) :
    (insertWord word words).Pairwise (· < ·) := by
  induction words with
  | nil => simp [insertWord]
  | cons head rest ih =>
      obtain ⟨first, later⟩ := List.pairwise_cons.mp ascending
      unfold insertWord
      split
      · rename_i less
        refine List.pairwise_cons.mpr ⟨List.forall_mem_cons.mpr ⟨less, ?_⟩, ascending⟩
        exact fun other member => List.lt_trans less (first other member)
      · rename_i notLess
        split
        · exact ascending
        · rename_i differs
          have greater : head < word := by
            by_contra notGreater
            exact differs (List.le_antisymm (List.not_lt.mp notGreater) (List.not_lt.mp notLess))
          refine List.pairwise_cons.mpr ⟨fun other member => ?_, ih later⟩
          rcases mem_insertWord.mp member with rfl | inRest
          · exact greater
          · exact first other inRest

end Insertion

section Collection

variable {word : Text} {words : List Text}

theorem mem_collectWords_iff : word ∈ collectWords words ↔ ∃ other ∈ words, upper other = word := by
  induction words with
  | nil => simp [collectWords]
  | cons first rest ih =>
      rw [collectWords] at ih ⊢
      rw [List.foldr_cons, mem_insertWord, ih, List.exists_mem_cons_iff, eq_comm]

theorem collectWords_ascending (words : List Text) : (collectWords words).Pairwise (· < ·) := by
  induction words with
  | nil => exact .nil
  | cons first rest ih => exact insertWord_ascending ih

/-- Words that are in upper case and in order are held as they are. -/
theorem collectWords_of_ascending (ascending : words.Pairwise (· < ·))
    (upperCase : ∀ word ∈ words, upper word = word) : collectWords words = words := by
  induction words with
  | nil => rfl
  | cons first rest ih =>
      obtain ⟨before, later⟩ := List.pairwise_cons.mp ascending
      obtain ⟨ofFirst, ofRest⟩ := List.forall_mem_cons.mp upperCase
      have held := ih later ofRest
      rw [collectWords] at held ⊢
      rw [List.foldr_cons, held, ofFirst, insertWord_of_lt before]

end Collection

namespace Vocabulary

variable {vocabulary : Vocabulary} {word : Text} {words extra : List Text}

section Form

theorem upper_of_mem (vocabulary : Vocabulary) : ∀ word ∈ vocabulary.words, upper word = word := by
  obtain ⟨source, same⟩ := vocabulary.collected
  intro word member
  rw [same] at member
  obtain ⟨other, _, rfl⟩ := mem_collectWords_iff.mp member
  exact upper_upper other

theorem ascending (vocabulary : Vocabulary) : vocabulary.words.Pairwise (· < ·) := by
  obtain ⟨source, same⟩ := vocabulary.collected
  rw [same]
  exact collectWords_ascending source

/-- Some words of a vocabulary are held as they are when they are collected again. -/
theorem words_ofWords_filter (vocabulary : Vocabulary) (keeps : Text → Bool) :
    (ofWords (vocabulary.words.filter keeps)).words = vocabulary.words.filter keeps :=
  collectWords_of_ascending (vocabulary.ascending.filter keeps) fun word member =>
    vocabulary.upper_of_mem word (List.mem_of_mem_filter member)

theorem ofWords_words (vocabulary : Vocabulary) : ofWords vocabulary.words = vocabulary := by
  have held := collectWords_of_ascending vocabulary.ascending vocabulary.upper_of_mem
  obtain ⟨words, collected⟩ := vocabulary
  simp only [ofWords, held]

theorem mem_words_iff :
    word ∈ vocabulary.words ↔ upper word = word ∧ vocabulary.isKeyword word = true := by
  rw [isKeyword, List.contains_iff_mem]
  constructor
  · intro member
    have fixed := vocabulary.upper_of_mem word member
    exact ⟨fixed, by rwa [fixed]⟩
  · rintro ⟨fixed, member⟩
    rwa [fixed] at member

end Form

theorem isKeyword_congr {other : Text} (same : upper word = upper other) :
    vocabulary.isKeyword word = vocabulary.isKeyword other := by
  rw [isKeyword, isKeyword, same]

/-- Among words in upper case, a word is found by its upper-case form. -/
theorem exists_upper_eq_iff (upperCase : ∀ word ∈ words, upper word = word) :
    (∃ other ∈ words, upper other = upper word) ↔ upper word ∈ words := by
  constructor
  · intro ⟨other, member, same⟩
    rw [← same, upperCase other member]
    exact member
  · intro member
    exact ⟨upper word, member, upper_upper word⟩

theorem isKeyword_ofWords_iff :
    (ofWords words).isKeyword word = true ↔ ∃ other ∈ words, upper other = upper word := by
  rw [isKeyword, List.contains_iff_mem]
  exact mem_collectWords_iff

theorem isKeyword_extended_iff :
    (vocabulary.extended extra).isKeyword word = true ↔
      (∃ other ∈ extra, upper other = upper word) ∨ vocabulary.isKeyword word = true := by
  have held := @exists_upper_eq_iff word vocabulary.words vocabulary.upper_of_mem
  have added : (∃ other ∈ extra.map upper, upper other = upper word) ↔
      ∃ other ∈ extra, upper other = upper word := by
    simp [upper_upper]
  rw [extended, isKeyword_ofWords_iff, isKeyword, List.contains_iff_mem, ← held, ← added, or_comm]
  simp only [List.mem_append, or_and_right, exists_or]

theorem words_without (vocabulary : Vocabulary) (removed : List Text) :
    (vocabulary.without removed).words =
      vocabulary.words.filter fun word => !(removed.map upper).contains word :=
  vocabulary.words_ofWords_filter _

theorem isKeyword_without_iff {removed : List Text} :
    (vocabulary.without removed).isKeyword word = true ↔
      vocabulary.isKeyword word = true ∧ ¬ ∃ other ∈ removed, upper other = upper word := by
  simp [isKeyword, words_without]

theorem words_intersection (left right : Vocabulary) :
    (left.intersection right).words = left.words.filter right.words.contains :=
  left.words_ofWords_filter _

theorem isKeyword_intersection (left right : Vocabulary) (word : Text) :
    (left.intersection right).isKeyword word = (left.isKeyword word && right.isKeyword word) := by
  rw [Bool.eq_iff_iff]
  simp [isKeyword, words_intersection]

end Vocabulary

end NameFraming
