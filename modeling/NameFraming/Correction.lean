import NameFraming.Correction.AssignmentTarget
import NameFraming.Correction.KeywordOperand
import NameFraming.Correction.MaterialQuality
import NameFraming.Scanner

/-! Corrections after the scan. The scan sees one word at a time and cannot know that a reserved
word is used as a name, or a name as a quality; each rule here knows one small shape of tokens. -/

namespace NameFraming

inductive Rule where
  | assignmentTarget (rule : AssignmentTarget)
  | keywordOperand (rule : KeywordOperand)
  | materialQuality (rule : MaterialQuality)
deriving DecidableEq

namespace Rule

def name : Rule → String
  | assignmentTarget _ => "assignment_target"
  | keywordOperand _ => "keyword_operand"
  | materialQuality _ => "material_quality"

def summary : Rule → String
  | rule@(assignmentTarget _) => s!"AssignmentTargetRule(name='{rule.name}')"
  | rule@(keywordOperand _) => s!"KeywordOperandRule(name='{rule.name}')"
  | rule@(materialQuality _) => s!"MaterialQualityExceptionRule(name='{rule.name}')"

def rewrite : Rule → List Token → List Token × Nat
  | assignmentTarget rule => rule.rewrite
  | keywordOperand rule => rule.rewrite
  | materialQuality rule => rule.rewrite

/-- Rewrites a line only when there is something on it to correct. -/
def correctLine (rule : Rule) (line : Text) : Text × Nat :=
  let corrected := rule.rewrite (tokenize commentMarker line)
  if corrected.2 = 0 then (line, 0) else (render corrected.1, corrected.2)

def apply (rule : Rule) (text : Text) : Text × Nat :=
  overLines rule.correctLine text

def withMaterials (materials : List Text) (preposition : Text) : List Rule :=
  [.assignmentTarget .standard, .keywordOperand .standard,
    .materialQuality (.ofWords materials preposition)]

def standard : List Rule :=
  withMaterials MaterialQuality.standardMaterials MaterialQuality.standardPreposition

end Rule

/-- How often each rule corrected something, in the order in which the rules ran. -/
abbrev Counts := List (String × Nat)

namespace Counts

def total (counts : Counts) : Nat :=
  (counts.map Prod.snd).foldr (· + ·) 0

/-- The count of a rule; a rule that did not run counts nothing. -/
def of (counts : Counts) (name : String) : Nat :=
  (counts.lookup name).getD 0

def nonzero (counts : Counts) : Counts :=
  counts.filter (fun entry => entry.2 != 0)

end Counts

/-- Applies rules one after the other, each to the text that the one before has left. -/
def applyRules : List Rule → Text → Text × Counts
  | [], text => (text, [])
  | rule :: rules, text =>
      let corrected := rule.apply text
      let later := applyRules rules corrected.1
      (later.1, (rule.name, corrected.2) :: later.2)

end NameFraming
