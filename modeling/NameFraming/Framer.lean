import NameFraming.Correction

/-! The framer: a scan, then the corrections. -/

namespace NameFraming

structure Outcome where
  text : Text
  changed : Bool
  identifiersFramed : Nat
  corrections : Counts
deriving DecidableEq

namespace Outcome

def correctionsApplied (outcome : Outcome) : Nat :=
  outcome.corrections.total

end Outcome

structure Framer where
  vocabulary : Vocabulary := .reserved
  rules : List Rule := Rule.standard

namespace Framer

def scanner (framer : Framer) : Scanner :=
  { vocabulary := framer.vocabulary }

def isKeyword (framer : Framer) (word : Text) : Bool :=
  framer.vocabulary.isKeyword word

def frame (framer : Framer) (text : Text) : Outcome :=
  let scanned := framer.scanner.frame text
  let corrected := applyRules framer.rules scanned.1
  { text := corrected.1
    changed := corrected.1 != text
    identifiersFramed := scanned.2
    corrections := corrected.2 }

def transform (framer : Framer) (text : Text) : Text :=
  (framer.frame text).text

end Framer

end NameFraming
