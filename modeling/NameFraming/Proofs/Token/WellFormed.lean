import Mathlib.Data.List.Chain
import NameFraming.Proofs.Text.CharacterClasses

/-! Which token lists the lexer makes, said without the lexer. Every list that it makes is of this
form, and every list of this form is read back from its text, so a line has exactly one such
factorisation. -/

namespace NameFraming

/-- A span opens with its mark; inside it there is no other, though its last character may be one.
-/
def IsSpan (mark : Char) : Text → Prop
  | [] => False
  | first :: rest => first = mark ∧ mark ∉ rest.dropLast

namespace Token

def isRun (token : Token) : Bool :=
  token.kind == .word || token.kind == .number

/-- The text has the shape that the kind of the token asks for. -/
def WellFormed (token : Token) : Prop :=
  match token.kind with
  | .quoted => IsSpan quoteMark token.text
  | .delimited => IsSpan delimiter token.text
  | .number => token.text ≠ [] ∧ ∀ c ∈ token.text, isDecimal c = true
  | .word =>
      token.text ≠ [] ∧ (∀ c ∈ token.text, isWordChar c = true) ∧
        ¬ ∀ c ∈ token.text, isDecimal c = true
  | .other => token.text ≠ [] ∧ ∀ c ∈ token.text, isPlain c = true

/-- Only a closed span has a token behind it, and neither two runs of word characters nor two runs
of other characters stand side by side. -/
def MayPrecede (left right : Token) : Prop :=
  left.terminated = true ∧ ¬ (left.isRun = true ∧ right.isRun = true) ∧
    ¬ (left.kind = .other ∧ right.kind = .other)

end Token

structure TokensWellFormed (tokens : List Token) : Prop where
  each : ∀ token ∈ tokens, token.WellFormed
  adjacent : tokens.IsChain Token.MayPrecede

theorem TokensWellFormed.tail {first : Token} {rest : List Token}
    (wellFormed : TokensWellFormed (first :: rest)) : TokensWellFormed rest :=
  ⟨fun token member => wellFormed.each token (by simp [member]),
    (List.isChain_cons.mp wellFormed.adjacent).2⟩

theorem TokensWellFormed.cons {first : Token} {rest : List Token} (head : first.WellFormed)
    (joined : ∀ next ∈ rest.head?, first.MayPrecede next) (tail : TokensWellFormed rest) :
    TokensWellFormed (first :: rest) :=
  ⟨List.forall_mem_cons.mpr ⟨head, tail.each⟩, List.isChain_cons.mpr ⟨joined, tail.adjacent⟩⟩

section Heads

variable {token : Token}

theorem Token.WellFormed.exists_cons (wellFormed : token.WellFormed) :
    ∃ first rest, token.text = first :: rest := by
  apply List.exists_cons_of_ne_nil
  intro empty
  unfold Token.WellFormed at wellFormed
  split at wellFormed <;> simp_all [IsSpan]

/-- The first character of a token that is no run of word characters ends such a run. -/
theorem Token.WellFormed.head_not_wordChar (wellFormed : token.WellFormed)
    (noRun : token.isRun = false) :
    ∃ first rest, token.text = first :: rest ∧ isWordChar first = false := by
  obtain ⟨first, rest, text⟩ := wellFormed.exists_cons
  refine ⟨first, rest, text, ?_⟩
  unfold Token.WellFormed at wellFormed
  rw [text] at wellFormed
  split at wellFormed
  · obtain ⟨rfl, _⟩ := wellFormed
    exact isWordChar_quoteMark
  · obtain ⟨rfl, _⟩ := wellFormed
    exact isWordChar_delimiter
  · simp_all [Token.isRun]
  · simp_all [Token.isRun]
  · have plain := wellFormed.2 first (by simp)
    simp only [isPlain, Bool.and_eq_true, Bool.not_eq_true'] at plain
    exact plain.1.1

/-- The first character of a token that is not plain text ends plain text. It is neither white
space nor a slash. -/
theorem Token.WellFormed.head_not_plain (wellFormed : token.WellFormed)
    (notOther : token.kind ≠ .other) :
    ∃ first rest, token.text = first :: rest ∧ isPlain first = false ∧
      NameFraming.isBlank first = false ∧ first ≠ '/' := by
  obtain ⟨first, rest, text⟩ := wellFormed.exists_cons
  refine ⟨first, rest, text, ?_⟩
  have ofWordChar : isWordChar first = true →
      isPlain first = false ∧ NameFraming.isBlank first = false ∧ first ≠ '/' := by
    intro wordChar
    exact ⟨by simp [isPlain, wordChar], isBlank_eq_false_of_isWordChar wordChar,
      ne_slash_of_isWordChar wordChar⟩
  unfold Token.WellFormed at wellFormed
  rw [text] at wellFormed
  split at wellFormed
  · obtain ⟨rfl, _⟩ := wellFormed
    decide
  · obtain ⟨rfl, _⟩ := wellFormed
    decide
  · exact ofWordChar (isWordChar_of_isDecimal (wellFormed.2 first (by simp)))
  · exact ofWordChar (wellFormed.2.1 first (by simp))
  · contradiction

end Heads

section Spans

variable {mark : Char} {body : Text}

theorem splitThrough_of_not_mem_dropLast (inside : mark ∉ body.dropLast) :
    splitThrough mark body = (body, []) := by
  induction body with
  | nil => rfl
  | cons c rest ih =>
      cases rest with
      | nil => by_cases closes : c = mark <;> simp [splitThrough, closes]
      | cons next later =>
          simp only [List.dropLast_cons_cons, List.mem_cons, not_or] at inside
          have differs : c ≠ mark := fun same => inside.1 same.symm
          rw [splitThrough, if_neg differs, ih inside.2]

theorem splitThrough_of_closed (inside : mark ∉ body) (later : Text) :
    splitThrough mark (body ++ mark :: later) = (body ++ [mark], later) := by
  induction body with
  | nil => simp [splitThrough]
  | cons c rest ih =>
      simp only [List.mem_cons, not_or] at inside
      have differs : c ≠ mark := fun same => inside.1 same.symm
      rw [List.cons_append, splitThrough, if_neg differs, ih inside.2]
      rfl

theorem not_mem_dropLast_splitThrough (mark : Char) (text : Text) :
    mark ∉ (splitThrough mark text).1.dropLast := by
  induction text with
  | nil => simp [splitThrough]
  | cons c rest ih =>
      by_cases closes : c = mark
      · simp [splitThrough, closes]
      · rw [splitThrough, if_neg closes]
        cases found : (splitThrough mark rest).1 with
        | nil => simp
        | cons next later =>
            rw [found] at ih
            simp only [List.dropLast_cons_cons, List.mem_cons, not_or]
            exact ⟨fun same => closes same.symm, ih⟩

theorem getLast?_splitThrough {text : Text} (left : (splitThrough mark text).2 ≠ []) :
    (splitThrough mark text).1.getLast? = some mark := by
  induction text with
  | nil => simp [splitThrough] at left
  | cons c rest ih =>
      by_cases closes : c = mark
      · simp [splitThrough, closes]
      · rw [splitThrough, if_neg closes] at left ⊢
        rw [List.getLast?_cons, ih left]
        rfl

end Spans

section Reading

theorem takeWhile_append_of_stop {p : Char → Bool} {run later : Text} (all : ∀ c ∈ run, p c = true)
    (stops : ∀ c ∈ later.head?, p c = false) : (run ++ later).takeWhile p = run := by
  rw [List.takeWhile_append_of_pos all]
  cases later with
  | nil => simp
  | cons c rest => simp [stops c rfl]

theorem dropWhile_append_of_stop {p : Char → Bool} {run later : Text} (all : ∀ c ∈ run, p c = true)
    (stops : ∀ c ∈ later.head?, p c = false) : (run ++ later).dropWhile p = later := by
  rw [List.dropWhile_append_of_pos all]
  cases later with
  | nil => rfl
  | cons c rest => simp [stops c rfl]

theorem lex_append_of_run {text later : Text} (nonempty : text ≠ [])
    (wordChars : ∀ c ∈ text, isWordChar c = true)
    (stops : ∀ c ∈ later.head?, isWordChar c = false) :
    lex (text ++ later) = .ofRun text :: lex later := by
  obtain ⟨first, rest, rfl⟩ := List.exists_cons_of_ne_nil nonempty
  obtain ⟨firstChar, restChars⟩ := List.forall_mem_cons.mp wordChars
  rw [List.cons_append, lex, if_neg (ne_quoteMark_of_isWordChar firstChar),
    if_neg (ne_delimiter_of_isWordChar firstChar), if_pos firstChar,
    takeWhile_append_of_stop restChars stops, dropWhile_append_of_stop restChars stops]

theorem lex_append_of_plain {text later : Text} (nonempty : text ≠ [])
    (plain : ∀ c ∈ text, isPlain c = true) (stops : ∀ c ∈ later.head?, isPlain c = false) :
    lex (text ++ later) = ⟨.other, text⟩ :: lex later := by
  obtain ⟨first, rest, rfl⟩ := List.exists_cons_of_ne_nil nonempty
  obtain ⟨firstPlain, restPlain⟩ := List.forall_mem_cons.mp plain
  simp only [isPlain, Bool.and_eq_true, Bool.not_eq_true', bne_iff_ne] at firstPlain
  obtain ⟨⟨notWord, notQuote⟩, notDelimiter⟩ := firstPlain
  rw [List.cons_append, lex, if_neg notQuote, if_neg notDelimiter, if_neg (by simp [notWord]),
    takeWhile_append_of_stop restPlain stops, dropWhile_append_of_stop restPlain stops]

/-- A span ends where its mark closes it, or with the text. -/
theorem splitThrough_append_of_closed {mark : Char} {body later : Text}
    (inside : mark ∉ body.dropLast) (closed : later ≠ [] → body.getLast? = some mark) :
    splitThrough mark (body ++ later) = (body, later) := by
  by_cases last : later = []
  · subst last
    rw [List.append_nil, splitThrough_of_not_mem_dropLast inside]
  · have ends := List.dropLast_append_getLast? mark (closed last)
    calc splitThrough mark (body ++ later)
        = splitThrough mark (body.dropLast ++ mark :: later) := by
          rw [List.append_cons, ends]
      _ = (body.dropLast ++ [mark], later) := splitThrough_of_closed inside later
      _ = (body, later) := by rw [ends]

theorem lex_append_of_span {kind : TokenKind} {mark : Char} {text later : Text}
    (marked : kind = .quoted ∧ mark = quoteMark ∨ kind = .delimited ∧ mark = delimiter)
    (span : IsSpan mark text) (closed : later ≠ [] → Token.terminated ⟨kind, text⟩ = true) :
    lex (text ++ later) = ⟨kind, text⟩ :: lex later := by
  cases text with
  | nil => cases span
  | cons first body =>
      obtain ⟨rfl, inside⟩ := span
      have ends : later ≠ [] → body.getLast? = some first := by
        intro more
        have terminated := closed more
        obtain ⟨rfl, rfl⟩ | ⟨rfl, rfl⟩ := marked <;>
        · cases body with
          | nil => simp [Token.terminated] at terminated
          | cons next rest => simpa [Token.terminated, List.getLast?_cons] using terminated
      have split := splitThrough_append_of_closed inside ends
      obtain ⟨rfl, rfl⟩ | ⟨rfl, rfl⟩ := marked
      · rw [List.cons_append, lex, if_pos rfl, split]
      · rw [List.cons_append, lex, if_neg (by decide), if_pos rfl, split]

@[simp] theorem render_nil : render [] = [] := rfl

@[simp] theorem render_cons (first : Token) (rest : List Token) :
    render (first :: rest) = first.text ++ render rest := rfl

/-- A well-formed list is what the lexer makes of its text. -/
theorem lex_render {tokens : List Token} (wellFormed : TokensWellFormed tokens) :
    lex (render tokens) = tokens := by
  induction tokens with
  | nil => simp [lex]
  | cons token rest ih =>
      have head := wellFormed.each token (by simp)
      have readRest := ih wellFormed.tail
      have joined := (List.isChain_cons.mp wellFormed.adjacent).1
      have closed : render rest ≠ [] → token.terminated = true := by
        intro more
        cases rest with
        | nil => simp at more
        | cons next later => exact (joined next rfl).1
      have stopsRun : token.isRun = true → ∀ c ∈ (render rest).head?, isWordChar c = false := by
        intro run c member
        cases rest with
        | nil => simp at member
        | cons next later =>
            have noRun : next.isRun = false := by
              simpa [run] using (joined next rfl).2.1
            obtain ⟨first, more, text, stop⟩ :=
              (wellFormed.each next (by simp)).head_not_wordChar noRun
            simp only [render_cons, text, List.cons_append, List.head?_cons, Option.mem_def,
              Option.some.injEq] at member
            exact member ▸ stop
      have stopsPlain : token.kind = .other → ∀ c ∈ (render rest).head?, isPlain c = false := by
        intro other c member
        cases rest with
        | nil => simp at member
        | cons next later =>
            have notOther : next.kind ≠ .other := by
              simpa [other] using (joined next rfl).2.2
            obtain ⟨first, more, text, stop, _⟩ :=
              (wellFormed.each next (by simp)).head_not_plain notOther
            simp only [render_cons, text, List.cons_append, List.head?_cons, Option.mem_def,
              Option.some.injEq] at member
            exact member ▸ stop
      obtain ⟨kind, text⟩ := token
      rw [render_cons]
      cases kind with
      | quoted => rw [lex_append_of_span (.inl ⟨rfl, rfl⟩) head closed, readRest]
      | delimited => rw [lex_append_of_span (.inr ⟨rfl, rfl⟩) head closed, readRest]
      | number =>
          have decimal : text.all isDecimal = true := List.all_eq_true.mpr head.2
          rw [lex_append_of_run head.1 (fun c member => isWordChar_of_isDecimal (head.2 c member))
            (stopsRun rfl), readRest, Token.ofRun, if_pos decimal]
      | word =>
          have mixed : ¬ text.all isDecimal = true :=
            fun decimal => head.2.2 (List.all_eq_true.mp decimal)
          rw [lex_append_of_run head.1 head.2.1 (stopsRun rfl), readRest, Token.ofRun, if_neg mixed]
      | other => rw [lex_append_of_plain head.1 head.2 (stopsPlain rfl), readRest]

end Reading

section Cutting

theorem Token.ofRun_wellFormed {run : Text} (nonempty : run ≠ [])
    (wordChars : ∀ c ∈ run, isWordChar c = true) : (Token.ofRun run).WellFormed := by
  unfold Token.ofRun
  split
  · rename_i decimal
    exact ⟨nonempty, List.all_eq_true.mp decimal⟩
  · rename_i mixed
    exact ⟨nonempty, wordChars, fun decimal => mixed (List.all_eq_true.mpr decimal)⟩

@[simp] theorem Token.isRun_ofRun (run : Text) : (Token.ofRun run).isRun = true := by
  unfold Token.ofRun
  split <;> rfl

@[simp] theorem Token.text_ofRun (run : Text) : (Token.ofRun run).text = run := rfl

theorem head?_lex_of_not_wordChar {text : Text} {next : Token}
    (stops : ∀ c ∈ text.head?, isWordChar c = false) (found : next ∈ (lex text).head?) :
    next.isRun = false := by
  cases text with
  | nil => simp [lex] at found
  | cons c rest =>
      have stop := stops c rfl
      rw [lex] at found
      split at found
      · cases found
        rfl
      · split at found
        · cases found
          rfl
        · simp only [stop, Bool.false_eq_true, if_false] at found
          cases found
          rfl

theorem head?_lex_of_not_plain {text : Text} {next : Token}
    (stops : ∀ c ∈ text.head?, isPlain c = false) (found : next ∈ (lex text).head?) :
    next.kind ≠ .other := by
  cases text with
  | nil => simp [lex] at found
  | cons c rest =>
      have stop := stops c rfl
      rw [lex] at found
      split at found
      · cases found
        simp
      · rename_i notQuote
        split at found
        · cases found
          simp
        · rename_i notDelimiter
          have wordChar : isWordChar c = true := by
            simpa [isPlain, notQuote, notDelimiter] using stop
          rw [if_pos wordChar] at found
          cases found
          unfold Token.ofRun
          split <;> simp

theorem dropWhile_head?_not (p : Char → Bool) (text : Text) :
    ∀ c ∈ (text.dropWhile p).head?, p c = false := by
  intro c member
  have stop := List.head?_dropWhile_not p text
  rw [Option.mem_def.mp member] at stop
  exact stop

/-- The lexer leaves a span open only at the end of the text. -/
theorem terminated_of_splitThrough {mark : Char} {rest : Text} {kind : TokenKind}
    (marked : kind = .quoted ∧ mark = quoteMark ∨ kind = .delimited ∧ mark = delimiter)
    (more : (splitThrough mark rest).2 ≠ []) :
    Token.terminated ⟨kind, mark :: (splitThrough mark rest).1⟩ = true := by
  have ends := getLast?_splitThrough more
  have nonempty : (splitThrough mark rest).1 ≠ [] := by
    intro empty
    simp [empty] at ends
  have long := List.length_pos_iff.mpr nonempty
  obtain ⟨rfl, rfl⟩ | ⟨rfl, rfl⟩ := marked <;>
    simp [Token.terminated, List.getLast?_cons, ends, long]

theorem tokensWellFormed_lex (text : Text) : TokensWellFormed (lex text) := by
  have remains : ∀ {later : Text} {next : Token}, next ∈ (lex later).head? → later ≠ [] := by
    intro later next found empty
    simp [empty, lex] at found
  fun_induction lex text with
  | case1 => exact ⟨by simp, .nil⟩
  | case2 rest ih =>
      refine .cons ⟨rfl, not_mem_dropLast_splitThrough quoteMark rest⟩ ?_ ih
      intro next found
      exact ⟨terminated_of_splitThrough (.inl ⟨rfl, rfl⟩) (remains found), by simp [Token.isRun],
        by simp⟩
  | case3 rest _ ih =>
      refine .cons ⟨rfl, not_mem_dropLast_splitThrough delimiter rest⟩ ?_ ih
      intro next found
      exact ⟨terminated_of_splitThrough (.inr ⟨rfl, rfl⟩) (remains found), by simp [Token.isRun],
        by simp⟩
  | case4 c rest _ _ wordChar ih =>
      have wordChars : ∀ d ∈ c :: rest.takeWhile isWordChar, isWordChar d = true :=
        List.forall_mem_cons.mpr ⟨wordChar, List.all_eq_true.mp List.all_takeWhile⟩
      refine .cons (Token.ofRun_wellFormed (by simp) wordChars) ?_ ih
      intro next found
      have noRun := head?_lex_of_not_wordChar (dropWhile_head?_not isWordChar rest) found
      refine ⟨?_, by simp [noRun], ?_⟩ <;> unfold Token.ofRun <;> split <;> simp [Token.terminated]
  | case5 c rest notQuote notDelimiter notWord ih =>
      have plain : ∀ d ∈ c :: rest.takeWhile isPlain, isPlain d = true :=
        List.forall_mem_cons.mpr ⟨by simp [isPlain, notQuote, notDelimiter, notWord],
          List.all_eq_true.mp List.all_takeWhile⟩
      refine .cons ⟨by simp, plain⟩ ?_ ih
      intro next found
      have notOther := head?_lex_of_not_plain (dropWhile_head?_not isPlain rest) found
      exact ⟨rfl, by simp [Token.isRun], by simp [notOther]⟩

end Cutting

section Factorisation

instance (mark : Char) : (text : Text) → Decidable (IsSpan mark text)
  | [] => .isFalse id
  | first :: rest => inferInstanceAs (Decidable (first = mark ∧ mark ∉ rest.dropLast))

instance Token.decidableWellFormed : (token : Token) → Decidable token.WellFormed
  | ⟨.quoted, text⟩ => inferInstanceAs (Decidable (IsSpan quoteMark text))
  | ⟨.delimited, text⟩ => inferInstanceAs (Decidable (IsSpan delimiter text))
  | ⟨.number, text⟩ =>
      decidable_of_iff (text ≠ [] ∧ text.all isDecimal = true) (and_congr_right' List.all_eq_true)
  | ⟨.word, text⟩ =>
      decidable_of_iff
        (text ≠ [] ∧ text.all isWordChar = true ∧ ¬ text.all isDecimal = true)
        (and_congr_right' (and_congr List.all_eq_true (not_congr List.all_eq_true)))
  | ⟨.other, text⟩ =>
      decidable_of_iff (text ≠ [] ∧ text.all isPlain = true) (and_congr_right' List.all_eq_true)

instance : DecidableRel Token.MayPrecede :=
  fun _ _ => inferInstanceAs (Decidable (_ ∧ _))

instance (tokens : List Token) : Decidable (TokensWellFormed tokens) :=
  decidable_of_iff ((∀ token ∈ tokens, token.WellFormed) ∧ tokens.IsChain Token.MayPrecede)
    ⟨fun ⟨each, adjacent⟩ => ⟨each, adjacent⟩, fun ⟨each, adjacent⟩ => ⟨each, adjacent⟩⟩

theorem tokenize_of_not_passthrough {marker line : Text}
    (lookedInto : isPassthrough marker line = false) : tokenize marker line = lex line := by
  rw [tokenize, lookedInto, if_neg (by simp)]

/-- A line that is looked into has exactly one well-formed factorisation, and its tokens are that
one, whatever opens commentary. -/
theorem tokenize_factorisation (marker : Text) :
    (∀ line, render (tokenize marker line) = line) ∧
      (∀ line, isPassthrough marker line = false → TokensWellFormed (tokenize marker line)) ∧
      ∀ tokens, TokensWellFormed tokens → isPassthrough marker (render tokens) = false →
        tokenize marker (render tokens) = tokens := by
  refine ⟨render_tokenize marker, ?_, ?_⟩
  · intro line lookedInto
    rw [tokenize_of_not_passthrough lookedInto]
    exact tokensWellFormed_lex line
  · intro tokens wellFormed lookedInto
    rw [tokenize_of_not_passthrough lookedInto, lex_render wellFormed]

/-- Spans side by side, words against numbers, and a span that is left open. -/
theorem tokenize_factorisation_spans :
    let tokens : List Token :=
      [⟨.quoted, "\"a|\"".toList⟩, ⟨.delimited, "|B\"|".toList⟩, ⟨.word, "C1".toList⟩,
        ⟨.other, ", ".toList⟩, ⟨.number, "42".toList⟩, ⟨.delimited, "|D \"e".toList⟩]
    TokensWellFormed tokens ∧ isPassthrough ['#'] (render tokens) = false ∧
      tokenize ['#'] (render tokens) = tokens := by
  intro tokens
  have wellFormed : TokensWellFormed tokens := by decide +kernel
  have notPassed : isPassthrough ['#'] (render tokens) = false := by decide +kernel
  exact ⟨wellFormed, notPassed, (tokenize_factorisation ['#']).2.2 tokens wellFormed notPassed⟩

end Factorisation

end NameFraming
