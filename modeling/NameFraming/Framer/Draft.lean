import NameFraming.Framer.Events

/-! Framers under construction: a list of rules in which some may still lack their rewrite. -/

namespace NameFraming

inductive RuleSlot where
  | written (rule : Rule)
  | unwritten

def RuleSlot.name : RuleSlot → String
  | written rule => rule.name
  | unwritten => "correction"

inductive DraftError where
  | duplicateNames (names : List String)
  | unwrittenRule

def DraftError.message : DraftError → String
  | duplicateNames names =>
      "duplicate correction rule names: " ++
        String.ofList (Value.list (names.map Value.ofString)).display
  | unwrittenRule => ""

/-- The rules up to the first unwritten one, and whether they are all. -/
structure RuleDraft where
  rules : List Rule
  complete : Bool

namespace RuleDraft

def rulesBeforeGap : List RuleSlot → List Rule
  | .written rule :: rest => rule :: rulesBeforeGap rest
  | _ => []

/-- Counts are kept by the names of rules, so the names must be different. -/
def ofSlots (slots : List RuleSlot) : Except DraftError RuleDraft :=
  let names := slots.map RuleSlot.name
  if names.Nodup then
    let rules := rulesBeforeGap slots
    .ok ⟨rules, rules.length = slots.length⟩
  else .error (.duplicateNames names)

def standard : RuleDraft :=
  ⟨Rule.standard, true⟩

def apply (draft : RuleDraft) (text : Text) :
    List Event × Except DraftError (Text × Counts) :=
  let corrected := applyRules draft.rules text
  (corrected.2.events, if draft.complete then .ok corrected else .error .unwrittenRule)

end RuleDraft

structure Draft where
  framer : Framer
  complete : Bool := true

namespace Draft

def ofRules (vocabulary : Vocabulary) (rules : RuleDraft) : Draft :=
  ⟨{ vocabulary, rules := rules.rules }, rules.complete⟩

/-- Frames a text, unless an unwritten rule is reached; it is reached on any text. -/
def frame (draft : Draft) (text : Text) : List Event × Except DraftError Outcome :=
  let outcome := draft.framer.frame text
  let events := draft.framer.events text
  if draft.complete then (events, .ok outcome) else (events.dropLast, .error .unwrittenRule)

end Draft

end NameFraming
