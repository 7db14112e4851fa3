import NameFraming.Token.Lexer

/-! How the character classes lie to each other. The classes are given by tables, so each fact is
one comparison of intervals; the lexer only ever needs these facts, never the tables. -/

namespace NameFraming

namespace CodeRanges

variable {ranges left right : CodeRanges} {code : Nat}

theorem exists_range_of_contains (contained : ranges.contains code = true) :
    ∃ range ∈ ranges, range.1 ≤ code ∧ code ≤ range.2 := by
  induction ranges with
  | nil => cases contained
  | cons range rest ih =>
      simp only [contains] at contained
      split at contained
      · cases contained
      · rename_i atLeast
        split at contained
        · rename_i atMost
          exact ⟨range, by simp, by omega, atMost⟩
        · obtain ⟨found, member, within⟩ := ih contained
          exact ⟨found, by simp [member], within⟩

/-- Whether no interval of one set meets an interval of the other. -/
def apart (left right : CodeRanges) : Bool :=
  left.all fun one => right.all fun other => Nat.blt one.2 other.1 || Nat.blt other.2 one.1

theorem contains_eq_false_of_apart (separate : left.apart right = true)
    (contained : left.contains code = true) : right.contains code = false := by
  cases found : right.contains code with
  | false => rfl
  | true =>
      obtain ⟨one, inLeft, oneLower, oneUpper⟩ := exists_range_of_contains contained
      obtain ⟨other, inRight, otherLower, otherUpper⟩ := exists_range_of_contains found
      have disjoint := List.all_eq_true.mp (List.all_eq_true.mp separate one inLeft) other inRight
      simp only [Bool.or_eq_true, Nat.blt_eq] at disjoint
      omega

end CodeRanges

@[simp] theorem isWordChar_delimiter : isWordChar delimiter = false := by decide

@[simp] theorem isWordChar_quoteMark : isWordChar quoteMark = false := by decide

@[simp] theorem isBlank_delimiter : isBlank delimiter = false := by decide

@[simp] theorem isBlank_quoteMark : isBlank quoteMark = false := by decide

variable {c : Char}

theorem isWordChar_of_isDecimal (decimal : isDecimal c = true) : isWordChar c = true := by
  simp [isWordChar, decimal]

theorem ne_delimiter_of_isWordChar (wordChar : isWordChar c = true) : c ≠ delimiter := by
  intro same
  simp [same] at wordChar

theorem ne_quoteMark_of_isWordChar (wordChar : isWordChar c = true) : c ≠ quoteMark := by
  intro same
  simp [same] at wordChar

theorem ne_slash_of_isWordChar (wordChar : isWordChar c = true) : c ≠ '/' := by
  intro same
  rw [same] at wordChar
  exact absurd wordChar (by decide)

theorem isBlank_eq_false_of_isWordChar (wordChar : isWordChar c = true) : isBlank c = false := by
  simp only [isWordChar, Bool.or_eq_true, beq_iff_eq] at wordChar
  obtain (letter | decimal) | underscore := wordChar
  · have separate : letterRanges.apart blankRanges = true := by decide +kernel
    exact CodeRanges.contains_eq_false_of_apart separate letter
  · have separate : decimalRanges.apart blankRanges = true := by decide +kernel
    exact CodeRanges.contains_eq_false_of_apart separate decimal
  · subst underscore
    decide

theorem isBareName_iff {word : Text} :
    isBareName word = true ↔
      word ≠ [] ∧ (∀ c ∈ word, isWordChar c = true) ∧ (¬ ∀ c ∈ word, isDecimal c = true) ∧
        ∀ c ∈ word, isLowercase c = false := by
  simp [isBareName, and_assoc]

theorem isPlain_of_isBlank (blank : isBlank c = true) : isPlain c = true := by
  have notWord : isWordChar c = false := by
    cases wordChar : isWordChar c with
    | false => rfl
    | true => simp [isBlank_eq_false_of_isWordChar wordChar] at blank
  have notQuote : c ≠ quoteMark := by
    intro same
    simp [same] at blank
  have notDelimiter : c ≠ delimiter := by
    intro same
    simp [same] at blank
  simp [isPlain, notWord, notQuote, notDelimiter]

end NameFraming
