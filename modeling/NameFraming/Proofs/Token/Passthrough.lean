import Mathlib.Data.List.TakeWhile
import NameFraming.Proofs.Token.WellFormed

/-! Whether a line is passed through is decided by its first tokens: white space and commentary are
plain text, and delimiters around a name cannot make or undo either of them. -/

namespace NameFraming

namespace Text

theorem stripStart_append_of_blank {blanks : Text} (blank : blanks.all isBlank = true)
    (later : Text) : stripStart (blanks ++ later) = stripStart later := by
  simp only [stripStart]
  exact List.dropWhile_append_of_pos (List.all_eq_true.mp blank)

theorem stripStart_cons_of_not_blank {c : Char} (notBlank : isBlank c = false) (rest : Text) :
    stripStart (c :: rest) = c :: rest := by
  simp [stripStart, notBlank]

theorem stripStart_eq_nil_iff {text : Text} :
    stripStart text = [] ↔ text.all isBlank = true := by
  rw [stripStart, List.dropWhile_eq_nil_iff, List.all_eq_true]

theorem exists_blank_append_stripEnd (text : Text) :
    ∃ blanks : Text, blanks.all isBlank = true ∧ text.stripEnd ++ blanks = text := by
  refine ⟨(text.reverse.takeWhile isBlank).reverse, ?_, ?_⟩
  · rw [List.all_reverse]
    exact List.all_takeWhile
  · rw [stripEnd, ← List.reverse_append, List.takeWhile_append_dropWhile, List.reverse_reverse]

end Text

theorem commentMarker_isPrefixOf_iff {text : Text} :
    commentMarker.isPrefixOf text = true ↔ ∃ rest, text = '/' :: '/' :: rest := by
  match text with
  | [] => simp [commentMarker]
  | [c] => simp [commentMarker]
  | c :: d :: rest =>
      simp only [commentMarker, List.isPrefixOf_cons_cons, List.isPrefixOf_nil_left, Bool.and_true,
        Bool.and_eq_true, beq_iff_eq, List.cons.injEq, exists_and_left, exists_eq', and_true]
      exact ⟨fun ⟨first, second⟩ => ⟨first.symm, second.symm⟩,
        fun ⟨first, second⟩ => ⟨first.symm, second.symm⟩⟩

theorem not_isBlank_slash : isBlank '/' = false := by decide

/-- White space at the end of a line does not matter here. -/
theorem isPassthrough_iff {line : Text} :
    isPassthrough commentMarker line = true ↔
      line.stripStart = [] ∨ commentMarker.isPrefixOf line.stripStart = true := by
  simp only [isPassthrough, Text.strip, Bool.or_eq_true, List.isEmpty_iff]
  obtain ⟨blanks, blank, whole⟩ := Text.exists_blank_append_stripEnd line.stripStart
  have allBlank := List.all_eq_true.mp blank
  have startStops : ∀ c ∈ line.stripStart.head?, isBlank c = false :=
    dropWhile_head?_not isBlank line
  -- Both conditions look at the first two characters only, and neither a slash nor the character
  -- at which the start was cut is white space.
  constructor
  · intro either
    rcases either with empty | opens
    · left
      rw [empty, List.nil_append] at whole
      cases found : line.stripStart with
      | nil => rfl
      | cons c rest =>
          have stop := startStops c (by simp [found])
          have inBlanks : c ∈ blanks := by rw [whole, found]; simp
          simp [allBlank c inBlanks] at stop
    · right
      obtain ⟨rest, text⟩ := commentMarker_isPrefixOf_iff.mp opens
      rw [commentMarker_isPrefixOf_iff]
      exact ⟨rest ++ blanks, by rw [← whole, text]; rfl⟩
  · intro either
    rcases either with empty | opens
    · left
      rw [empty]
      rfl
    · right
      obtain ⟨rest, text⟩ := commentMarker_isPrefixOf_iff.mp opens
      rw [text] at whole
      have notBlank : ∀ later : Text, blanks ≠ '/' :: later := by
        intro later same
        simp [same, not_isBlank_slash] at blank
      rw [text, commentMarker_isPrefixOf_iff]
      match found : Text.stripEnd ('/' :: '/' :: rest) with
      | [] =>
          rw [found, List.nil_append] at whole
          exact absurd whole (notBlank _)
      | [c] =>
          rw [found] at whole
          simp only [List.cons_append, List.nil_append, List.cons.injEq] at whole
          exact absurd whole.2 (notBlank _)
      | c :: d :: later =>
          rw [found] at whole
          simp only [List.cons_append, List.cons.injEq] at whole
          obtain ⟨rfl, rfl, _⟩ := whole
          exact ⟨later, rfl⟩

/-- Whether a line of these tokens is passed through: it opens with commentary, or there is nothing
on it but white space. -/
def TokensPassed : List Token → Prop
  | [] => True
  | first :: rest =>
      first.kind = .other ∧
        (commentMarker.isPrefixOf first.text.stripStart = true ∨
          first.text.all isBlank = true ∧ rest = [])

theorem isPassthrough_eq_false_of_head {line : Text} {c : Char} {rest : Text}
    (start : line.stripStart = c :: rest) (notSlash : c ≠ '/') :
    isPassthrough commentMarker line = false := by
  rw [Bool.eq_false_iff, ne_eq, isPassthrough_iff, start, commentMarker_isPrefixOf_iff]
  intro passed
  rcases passed with empty | ⟨_, same⟩
  · cases empty
  · exact notSlash (List.cons.inj same).1

/-- Text that does not begin with a slash cannot complete the opening of commentary. -/
theorem commentMarker_isPrefixOf_append_iff {start later : Text} (nonempty : start ≠ [])
    (noSlash : ∀ c ∈ later.head?, c ≠ '/') :
    commentMarker.isPrefixOf (start ++ later) = true ↔ commentMarker.isPrefixOf start = true := by
  rw [commentMarker_isPrefixOf_iff, commentMarker_isPrefixOf_iff]
  match start with
  | [] => exact absurd rfl nonempty
  | [c] =>
      constructor
      · intro ⟨rest, opens⟩
        simp only [List.cons_append, List.nil_append, List.cons.injEq] at opens
        exact absurd rfl (noSlash '/' (by rw [opens.2]; rfl))
      · intro ⟨rest, opens⟩
        cases opens
  | c :: d :: more =>
      constructor
      · intro ⟨rest, opens⟩
        simp only [List.cons_append, List.cons.injEq] at opens
        exact ⟨more, by rw [opens.1, opens.2.1]⟩
      · intro ⟨rest, opens⟩
        exact ⟨rest ++ later, by rw [opens]; rfl⟩

/-- What stands behind plain text begins with neither white space nor a slash. -/
theorem TokensWellFormed.head_after_other {first : Token} {rest : List Token}
    (wellFormed : TokensWellFormed (first :: rest)) (other : first.kind = .other)
    (more : rest ≠ []) :
    ∃ c later, render rest = c :: later ∧ isBlank c = false ∧ c ≠ '/' := by
  obtain ⟨next, last, rfl⟩ := List.exists_cons_of_ne_nil more
  have joined := (List.isChain_cons.mp wellFormed.adjacent).1 next rfl
  have notOther : next.kind ≠ .other := by simpa [other] using joined.2.2
  obtain ⟨c, later, text, _, notBlank, notSlash⟩ :=
    (wellFormed.each next (by simp)).head_not_plain notOther
  exact ⟨c, later ++ render last, by simp [text], notBlank, notSlash⟩

theorem isPassthrough_render_iff {tokens : List Token} (wellFormed : TokensWellFormed tokens) :
    isPassthrough commentMarker (render tokens) = true ↔ TokensPassed tokens := by
  cases tokens with
  | nil => simp [TokensPassed, isPassthrough_iff, Text.stripStart]
  | cons first rest =>
      rw [render_cons]
      by_cases other : first.kind = .other
      · by_cases blank : first.text.all isBlank = true
        · -- The white space counts for nothing, and the next token decides.
          have start := Text.stripStart_append_of_blank blank (render rest)
          have emptyStart := Text.stripStart_eq_nil_iff.mpr blank
          simp only [TokensPassed, other, blank, emptyStart, true_and]
          by_cases last : rest = []
          · simp [isPassthrough_iff, last, emptyStart]
          · obtain ⟨c, later, text, notBlank, notSlash⟩ := wellFormed.head_after_other other last
            rw [text, Text.stripStart_cons_of_not_blank notBlank, ← text] at start
            rw [isPassthrough_eq_false_of_head (start.trans text) notSlash]
            simp [last, commentMarker]
        · -- The first token holds a character that decides.
          have someStart : first.text.stripStart ≠ [] :=
            fun empty => blank (Text.stripStart_eq_nil_iff.mp empty)
          have start : (first.text ++ render rest).stripStart =
              first.text.stripStart ++ render rest := by
            unfold Text.stripStart at someStart ⊢
            rw [List.dropWhile_append, if_neg fun empty => someStart (List.isEmpty_iff.mp empty)]
          have noSlash : ∀ c ∈ (render rest).head?, c ≠ '/' := by
            intro c member
            have more : rest ≠ [] := by
              intro last
              subst last
              cases member
            obtain ⟨d, later, text, _, notSlash⟩ := wellFormed.head_after_other other more
            rw [text] at member
            cases member
            exact notSlash
          rw [isPassthrough_iff, start, commentMarker_isPrefixOf_append_iff someStart noSlash]
          simp [TokensPassed, other, blank, someStart]
      · obtain ⟨c, later, text, _, notBlank, notSlash⟩ :=
          (wellFormed.each first (by simp)).head_not_plain other
        have start : (first.text ++ render rest).stripStart = c :: (later ++ render rest) := by
          rw [text, List.cons_append, Text.stripStart_cons_of_not_blank notBlank]
        rw [isPassthrough_eq_false_of_head start notSlash]
        simp [TokensPassed, other]

theorem tokenize_render {tokens : List Token} (wellFormed : TokensWellFormed tokens)
    (lookedInto : ¬ TokensPassed tokens) : tokenize commentMarker (render tokens) = tokens := by
  rw [← isPassthrough_render_iff wellFormed] at lookedInto
  rw [tokenize, if_neg lookedInto, lex_render wellFormed]

theorem not_tokensPassed_lex {line : Text} (lookedInto : isPassthrough commentMarker line = false) :
    ¬ TokensPassed (lex line) := by
  rw [← isPassthrough_render_iff (tokensWellFormed_lex line), render_lex, lookedInto]
  simp

end NameFraming
