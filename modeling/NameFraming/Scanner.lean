import NameFraming.Token.Lexer
import NameFraming.Vocabulary.Reserved

/-! The scan: every bare name of a program that is not a reserved word gets its delimiters. -/

namespace NameFraming

/-- Rewrites each line of a text by itself, and adds up what the lines report. -/
def overLines (rewriteLine : Text → Text × Nat) (text : Text) : Text × Nat :=
  let results := text.lines.map rewriteLine
  (Text.unlines (results.map Prod.fst), (results.map Prod.snd).foldr (· + ·) 0)

structure Scanner where
  vocabulary : Vocabulary := .reserved
  commentMarker : Text := NameFraming.commentMarker

namespace Scanner

def isIdentifier (scanner : Scanner) (word : Text) : Bool :=
  isBareName word && !scanner.vocabulary.isKeyword word

/-- Words that name something and are not framed yet. -/
def frames (scanner : Scanner) (token : Token) : Bool :=
  token.kind == .word && scanner.isIdentifier token.text

def frameToken (scanner : Scanner) (token : Token) : Token :=
  if scanner.frames token then token.framed else token

def frameTokens (scanner : Scanner) (tokens : List Token) : List Token × Nat :=
  (tokens.map scanner.frameToken, tokens.countP scanner.frames)

def frameLine (scanner : Scanner) (line : Text) : Text :=
  render (scanner.frameTokens (tokenize scanner.commentMarker line)).1

/-- Rewrites a line only when there is something on it to frame. -/
def scanLine (scanner : Scanner) (line : Text) : Text × Nat :=
  if isPassthrough scanner.commentMarker line then (line, 0)
  else
    let framed := scanner.frameTokens (tokenize scanner.commentMarker line)
    if framed.2 = 0 then (line, 0) else (render framed.1, framed.2)

def frame (scanner : Scanner) (text : Text) : Text × Nat :=
  overLines scanner.scanLine text

end Scanner

end NameFraming
