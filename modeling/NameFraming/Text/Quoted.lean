import NameFraming.Text.Hex
import NameFraming.Text.Printable

/-! Text in quotes, on one line and free of invisible characters. -/

namespace NameFraming

namespace Text

/-- One character between quotes. Tab and line ends have short escapes; what cannot be shown is
written by its code point. -/
def escapeChar (mark c : Char) : Text :=
  if c = mark || c = '\\' then ['\\', c]
  else if c = '\t' then ['\\', 't']
  else if c = '\n' then ['\\', 'n']
  else if c = '\r' then ['\\', 'r']
  else if isPrintable c then [c]
  else if c.toNat < 0x100 then '\\' :: 'x' :: hexDigits 2 c.toNat
  else if c.toNat < 0x10000 then '\\' :: 'u' :: hexDigits 4 c.toNat
  else '\\' :: 'U' :: hexDigits 8 c.toNat

/-- Single quotes, unless the text has single quotes and no double ones. -/
def quoteFor (text : Text) : Char :=
  if text.contains '\'' && !text.contains '"' then '"' else '\''

def quoted (text : Text) : Text :=
  let mark := text.quoteFor
  mark :: (text.flatMap (escapeChar mark) ++ [mark])

end Text

end NameFraming
