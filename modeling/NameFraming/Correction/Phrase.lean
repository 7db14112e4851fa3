import NameFraming.Token.Lexer
import NameFraming.Text.Uppercasing

/-! Phrases: words in a row with white space between them. -/

namespace NameFraming

/-- The words of a phrase, in upper-case form. -/
abbrev Phrase := List Text

def Phrase.ofWords (words : List Text) : Phrase :=
  words.map upper

def Token.isWord (token : Token) (word : Text) : Bool :=
  token.kind == .word && upper token.text == word

/-- Whether the tokens begin with the words of a phrase, one blank token between every two of them.
The empty phrase is found everywhere. -/
def Phrase.begins : Phrase → List Token → Bool
  | [], _ => true
  | [word], token :: _ => token.isWord word
  | word :: next :: later, token :: gap :: rest =>
      token.isWord word && gap.isBlank && begins (next :: later) rest
  | _, _ => false

def Phrase.standsAt (phrase : Phrase) (tokens : List Token) (start : Nat) : Bool :=
  phrase.begins (tokens.drop start)

end NameFraming
