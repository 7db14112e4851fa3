import NameFraming.Text.Blank
import NameFraming.Text.DecimalDigit
import NameFraming.Text.Letter
import NameFraming.Text.Lowercase

/-! Tokens of a program line. -/

namespace NameFraming

/-- Stands on both sides of a framed name. -/
def delimiter : Char := '|'

def quoteMark : Char := '"'

/-- Letters and decimal digits of any script, and the underscore. -/
def isWordChar (c : Char) : Bool :=
  isLetter c || isDecimal c || c == '_'

/-- A word that could be framed at all: a run of word characters that is neither a digit run nor
written with lower-case letters. -/
def isBareName (word : Text) : Bool :=
  !word.isEmpty && word.all isWordChar && !word.all isDecimal && !word.any isLowercase

def frameWord (word : Text) : Text :=
  delimiter :: (word ++ [delimiter])

inductive TokenKind where
  | quoted
  | delimited
  | number
  | word
  | other
deriving DecidableEq

namespace TokenKind

def label : TokenKind → String
  | quoted => "string_literal"
  | delimited => "delimited_identifier"
  | number => "number"
  | word => "word"
  | other => "other"

def all : List TokenKind :=
  [quoted, delimited, number, word, other]

def ofLabel? (label : String) : Option TokenKind :=
  all.find? (·.label == label)

end TokenKind

structure Token where
  kind : TokenKind
  text : Text
deriving DecidableEq

namespace Token

/-- Whether a quoted or delimited span has its closing character. Other tokens need none. -/
def terminated (token : Token) : Bool :=
  match token.kind with
  | .quoted => 1 < token.text.length && token.text.getLast? == some quoteMark
  | .delimited => 1 < token.text.length && token.text.getLast? == some delimiter
  | _ => true

/-- The name between the delimiters; of any other token, its text. -/
def inner (token : Token) : Text :=
  if token.kind = .delimited then
    if token.terminated then (token.text.drop 1).dropLast else token.text.drop 1
  else token.text

def isBlank (token : Token) : Bool :=
  token.kind == .other && !token.text.isEmpty && token.text.all NameFraming.isBlank

def framed (token : Token) : Token :=
  ⟨.delimited, frameWord token.text⟩

/-- A run of word characters is a number when all of them are decimal digits. -/
def ofRun (run : Text) : Token :=
  ⟨if run.all isDecimal then .number else .word, run⟩

end Token

def render (tokens : List Token) : Text :=
  tokens.flatMap Token.text

end NameFraming
