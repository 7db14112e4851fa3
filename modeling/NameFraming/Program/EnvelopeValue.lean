import NameFraming.Program
import NameFraming.Value

/-! Envelopes as data. -/

namespace NameFraming

def DecodingReport.toValue (report : DecodingReport) : Value :=
  .ofFields [
    ("detected", .ofOption (report.detected.map String.toList)),
    ("decode_used", .ofString report.used),
    ("decode_fallback", .bool report.fallback),
    ("output", .ofString outputEncoding)]

def Counts.toValue (counts : Counts) : Value :=
  .ofFields (counts.map fun (rule, count) => (rule, .ofNat count))

namespace Envelope

def summaryValue (envelope : Envelope) : Value :=
  .ofFields [
    ("lines", .ofNat envelope.lineCount),
    ("identifiers_framed", .ofNat envelope.outcome.identifiersFramed),
    ("corrections_applied", .ofNat envelope.outcome.correctionsApplied),
    ("changed", .bool envelope.outcome.changed),
    ("deterministic", .bool true)]

def toValue (envelope : Envelope) : Value :=
  .ofFields [
    ("framed_program", .ofFields [
      ("sha256", .text envelope.sha256),
      ("encoding", .ofString outputEncoding),
      ("content_b64", .text envelope.base64)]),
    ("report", .ofFields [
      ("summary", envelope.summaryValue),
      ("encoding", envelope.decoding.toValue),
      ("corrections", envelope.outcome.corrections.toValue)])]

end Envelope

end NameFraming
