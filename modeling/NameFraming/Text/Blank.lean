import NameFraming.Text.CodeRanges

/-! White space, and cutting it off both ends of a text. -/

namespace NameFraming

/-- White space: the separators of Unicode 14, and the control characters that move the carriage or
separate records. The zero-width space and the byte order mark are not among them. -/
def blankRanges : CodeRanges := [
  (0x9, 0xD), (0x1C, 0x20), (0x85, 0x85), (0xA0, 0xA0), (0x1680, 0x1680), (0x2000, 0x200A),
  (0x2028, 0x2029), (0x202F, 0x202F), (0x205F, 0x205F), (0x3000, 0x3000)]

def isBlank (c : Char) : Bool :=
  blankRanges.contains c.toNat

namespace Text

def stripStart (text : Text) : Text :=
  text.dropWhile isBlank

def stripEnd (text : Text) : Text :=
  (text.reverse.dropWhile isBlank).reverse

def strip (text : Text) : Text :=
  stripEnd (stripStart text)

end Text

end NameFraming
