/-! Program text, and every word, line and name cut from it, is a list of characters. -/

namespace NameFraming

abbrev Text := List Char

namespace Text

/-- The pieces between line feeds. There is always at least one, and a carriage return is an
ordinary character. -/
def lines (text : Text) : List Text :=
  text.splitOn '\n'

def unlines (lines : List Text) : Text :=
  ['\n'].intercalate lines

@[simp] theorem unlines_lines (text : Text) : unlines text.lines = text :=
  List.intercalate_splitOn '\n'

theorem lines_ne_nil (text : Text) : text.lines ≠ [] :=
  List.splitOn_ne_nil '\n' text

end Text

end NameFraming
