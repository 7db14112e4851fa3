import NameFraming.Correction.Phrase
import NameFraming.Correction.Sweep

/-! `… PUT TOGETHER ANOTHER.`: a reserved word that ends a statement as the right operand of an
operator phrase is a name. -/

namespace NameFraming

/-- An operator phrase, and the reserved words that may be names after it. -/
structure OperandEntry where
  phrase : Phrase
  operands : List Text
deriving DecidableEq

/-- Entries with different phrases, in the order in which they are tried. -/
structure KeywordOperand where
  entries : List OperandEntry
deriving DecidableEq

/-- Puts an entry into a table. An entry with the same phrase keeps its place and takes over the new
operands. -/
def OperandEntry.put (entry : OperandEntry) : List OperandEntry → List OperandEntry
  | [] => [entry]
  | held :: rest =>
      if held.phrase = entry.phrase then entry :: rest else held :: put entry rest

namespace KeywordOperand

def ofPairs (pairs : List (List Text × List Text)) : KeywordOperand :=
  ⟨pairs.foldl (fun held pair => OperandEntry.put ⟨.ofWords pair.1, pair.2.map upper⟩ held) []⟩

def standard : KeywordOperand :=
  .ofPairs [(["PUT".toList, "TOGETHER".toList], ["ANOTHER".toList])]

/-- Whether a statement ends before the given tokens: there are none, or a period follows, or
there is nothing but white space. -/
def endsStatement : List Token → Bool
  | [] => true
  | next :: later =>
      next.kind == .other &&
        (next.text.head? == some '.' || (next.text.all isBlank && later.isEmpty))

end KeywordOperand

namespace OperandEntry

def operandAt (entry : OperandEntry) (tokens : List Token) (index : Nat) : Bool :=
  match tokens.drop (index - 1) with
  | gap :: operand :: rest =>
      0 < index && gap.isBlank && operand.kind == .word &&
        entry.operands.contains (upper operand.text) && isBareName operand.text &&
        KeywordOperand.endsStatement rest
  | _ => false

def rewriteAt (entry : OperandEntry) (start : Nat) (tokens : List Token) : List Token × Nat :=
  let index := start + 2 * entry.phrase.length
  if entry.phrase.standsAt tokens start && entry.operandAt tokens index then
    (tokens.modify index Token.framed, 1)
  else (tokens, 0)

def rewrite (entry : OperandEntry) (tokens : List Token) : List Token × Nat :=
  sweep entry.rewriteAt (List.range tokens.length) tokens

end OperandEntry

namespace KeywordOperand

def rewrite (rule : KeywordOperand) (tokens : List Token) : List Token × Nat :=
  sweep OperandEntry.rewrite rule.entries tokens

end KeywordOperand

end NameFraming
