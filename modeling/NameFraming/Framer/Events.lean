import NameFraming.Framer
import NameFraming.Log

/-! The log events of framing one text. -/

namespace NameFraming

namespace Scanner

def completed (lineCount framed : Nat) : Event :=
  { level := .debug
    name := "scan_complete"
    source := "lwframe.scanner"
    fields := [("lines", .ofNat lineCount), ("framed", .ofNat framed)] }

def event (scanner : Scanner) (text : Text) : Event :=
  completed text.lines.length (scanner.frame text).2

end Scanner

namespace Counts

def applied (entry : String × Nat) : Event :=
  { level := .debug
    name := "correction_applied"
    source := "lwframe.corrections"
    fields := [("rule", .ofString entry.1), ("count", .ofNat entry.2)] }

def events (counts : Counts) : List Event :=
  counts.nonzero.map applied

end Counts

namespace Outcome

def event (outcome : Outcome) : Event :=
  { level := .debug
    name := "program_framed"
    source := "lwframe.engine"
    fields :=
      [("changed", .bool outcome.changed),
        ("identifiers_framed", .ofNat outcome.identifiersFramed),
        ("corrections", .ofNat outcome.correctionsApplied)] }

end Outcome

namespace Framer

/-- The scan, then the rules that corrected something, then the outcome. -/
def events (framer : Framer) (text : Text) : List Event :=
  let outcome := framer.frame text
  Scanner.completed text.lines.length outcome.identifiersFramed ::
    (outcome.corrections.events ++ [outcome.event])

end Framer

end NameFraming
