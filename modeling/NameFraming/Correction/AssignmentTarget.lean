import NameFraming.Correction.Phrase

/-! `NAME PLACED AS …`: the word that a line assigns to is a name, even when it is reserved. -/

namespace NameFraming

structure AssignmentTarget where
  marker : Phrase
deriving DecidableEq

namespace AssignmentTarget

def ofWords (marker : List Text) : AssignmentTarget :=
  ⟨.ofWords marker⟩

def standard : AssignmentTarget :=
  .ofWords ["PLACED".toList, "AS".toList]

/-- Frames the first token when it can be a name and the marker follows after white space. -/
def rewriteTarget (rule : AssignmentTarget) : List Token → List Token × Nat
  | target :: gap :: rest =>
      if target.kind == .word && isBareName target.text && gap.isBlank && rule.marker.begins rest
      then (target.framed :: gap :: rest, 1)
      else (target :: gap :: rest, 0)
  | tokens => (tokens, 0)

/-- The target is the first token of the line, not counting indentation. -/
def rewrite (rule : AssignmentTarget) : List Token → List Token × Nat
  | [] => ([], 0)
  | first :: rest =>
      if first.isBlank then (first :: (rule.rewriteTarget rest).1, (rule.rewriteTarget rest).2)
      else rule.rewriteTarget (first :: rest)

end AssignmentTarget

end NameFraming
