import NameFraming.Token

/-! Cutting a line into tokens. -/

namespace NameFraming

/-- Separates what runs up to and including the first `closing` character from what follows it.
Without that character the first part is everything. -/
def splitThrough (closing : Char) : Text → Text × Text
  | [] => ([], [])
  | c :: rest =>
      if c = closing then ([c], rest)
      else (c :: (splitThrough closing rest).1, (splitThrough closing rest).2)

@[simp] theorem splitThrough_append (closing : Char) (text : Text) :
    (splitThrough closing text).1 ++ (splitThrough closing text).2 = text := by
  induction text with
  | nil => rfl
  | cons c rest ih =>
      by_cases closes : c = closing <;> simp [splitThrough, closes, ih]

theorem length_splitThrough_le (closing : Char) (text : Text) :
    (splitThrough closing text).2.length ≤ text.length := by
  have whole := congrArg List.length (splitThrough_append closing text)
  rw [List.length_append] at whole
  omega

/-- Neither part of a word nor the start of a span. -/
def isPlain (c : Char) : Bool :=
  !isWordChar c && c != quoteMark && c != delimiter

/-- Cuts a text into quoted spans, delimited spans, maximal runs of word characters and maximal runs
of everything else. A span without its closing character runs to the end. -/
def lex : Text → List Token
  | [] => []
  | c :: rest =>
      if c = quoteMark then
        ⟨.quoted, c :: (splitThrough quoteMark rest).1⟩ :: lex (splitThrough quoteMark rest).2
      else if c = delimiter then
        ⟨.delimited, c :: (splitThrough delimiter rest).1⟩ :: lex (splitThrough delimiter rest).2
      else if isWordChar c then
        .ofRun (c :: rest.takeWhile isWordChar) :: lex (rest.dropWhile isWordChar)
      else
        ⟨.other, c :: rest.takeWhile isPlain⟩ :: lex (rest.dropWhile isPlain)
termination_by text => text.length
decreasing_by
  · exact Nat.lt_succ_of_le (length_splitThrough_le quoteMark rest)
  · exact Nat.lt_succ_of_le (length_splitThrough_le delimiter rest)
  · exact Nat.lt_succ_of_le (List.dropWhile_sublist isWordChar).length_le
  · exact Nat.lt_succ_of_le (List.dropWhile_sublist isPlain).length_le

theorem render_lex (text : Text) : render (lex text) = text := by
  fun_induction lex text with
  | case1 => rfl
  | case2 rest ih =>
      simp only [render, List.flatMap_cons, List.cons_append] at ih ⊢
      rw [ih, splitThrough_append]
  | case3 rest _ ih =>
      simp only [render, List.flatMap_cons, List.cons_append] at ih ⊢
      rw [ih, splitThrough_append]
  | case4 c rest _ _ _ ih =>
      simp only [render, List.flatMap_cons, Token.ofRun, List.cons_append] at ih ⊢
      rw [ih, List.takeWhile_append_dropWhile]
  | case5 c rest _ _ _ ih =>
      simp only [render, List.flatMap_cons, List.cons_append] at ih ⊢
      rw [ih, List.takeWhile_append_dropWhile]

def commentMarker : Text := ['/', '/']

/-- Blank lines and commentary are never looked into. -/
def isPassthrough (marker line : Text) : Bool :=
  line.strip.isEmpty || marker.isPrefixOf line.strip

/-- The tokens of a line. Their texts join to the line again; a line that is passed through is one
token. -/
def tokenize (marker line : Text) : List Token :=
  if isPassthrough marker line then
    if line.isEmpty then [] else [⟨.other, line⟩]
  else lex line

@[simp] theorem render_tokenize (marker line : Text) : render (tokenize marker line) = line := by
  unfold tokenize
  split
  · cases line <;> simp [render]
  · exact render_lex line

end NameFraming
