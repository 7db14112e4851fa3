import NameFraming.Bytes.Base64
import NameFraming.Bytes.Sha256
import NameFraming.CommandLine
import NameFraming.CommandLine.Arguments
import NameFraming.Corpus.Batch
import NameFraming.Corpus.Breakdown
import NameFraming.Corpus.Category
import NameFraming.Corpus.Disk
import NameFraming.Corpus.DraftBatch
import NameFraming.Corpus.Path
import NameFraming.Corpus.Problem
import NameFraming.Corpus.Report
import NameFraming.Corpus.ReportCheck
import NameFraming.Correction
import NameFraming.Correction.AssignmentTarget
import NameFraming.Correction.KeywordOperand
import NameFraming.Correction.MaterialQuality
import NameFraming.Correction.Phrase
import NameFraming.Correction.Sweep
import NameFraming.Encoding
import NameFraming.Encoding.Codecs
import NameFraming.Encoding.SingleByte
import NameFraming.Encoding.Utf16
import NameFraming.Encoding.Utf8
import NameFraming.Encoding.Utf8Fault
import NameFraming.Framer
import NameFraming.Framer.Draft
import NameFraming.Framer.Events
import NameFraming.Log
import NameFraming.Main
import NameFraming.Program
import NameFraming.Program.EnvelopeValue
import NameFraming.Proofs.Text.CharacterClasses
import NameFraming.Proofs.Text.Lowercase
import NameFraming.Proofs.Text.Uppercasing
import NameFraming.Scanner
import NameFraming.Service
import NameFraming.Settings
import NameFraming.Settings.Configuration
import NameFraming.Settings.EnvFile
import NameFraming.Settings.Load
import NameFraming.Settings.Variable
import NameFraming.Startup
import NameFraming.Text
import NameFraming.Text.Blank
import NameFraming.Text.CaseRun
import NameFraming.Text.CodeRanges
import NameFraming.Text.DecimalDigit
import NameFraming.Text.Hex
import NameFraming.Text.Letter
import NameFraming.Text.Lowercase
import NameFraming.Text.Lowercasing
import NameFraming.Text.Printable
import NameFraming.Text.Quoted
import NameFraming.Text.Uppercasing
import NameFraming.Token
import NameFraming.Token.Lexer
import NameFraming.Token.OfValue
import NameFraming.Validation
import NameFraming.Validation.Integer
import NameFraming.Value
import NameFraming.Value.Binary64
import NameFraming.Value.Json
import NameFraming.Vocabulary
import NameFraming.Vocabulary.OfValues
import NameFraming.Vocabulary.Reserved
import NameFraming.Proofs.Token.WellFormed
import NameFraming.Proofs.Token.Passthrough
import NameFraming.Proofs.Token.Position
import NameFraming.Proofs.Token.Framing
import NameFraming.Proofs.Correction.AssignmentTarget
import NameFraming.Proofs.Correction.KeywordOperand
import NameFraming.Proofs.Correction.MaterialQuality
import NameFraming.Proofs.Framer.Lines
import NameFraming.Proofs.Framer.Passes
import NameFraming.Proofs.Framer.OneReading
import NameFraming.Proofs.Vocabulary
import NameFraming.Proofs.Framer.Scans
import NameFraming.Proofs.Framer.SecondRun
import NameFraming.Proofs.Framer.Instability
import NameFraming.Proofs.Settings
import NameFraming.Proofs.Framer.Idempotence
import NameFraming.Proofs.Framer.Alignment
import NameFraming.Proofs.Framer.Specification
import NameFraming.Proofs.Framer.Conservation
import NameFraming.Proofs.Encoding.Utf8
import NameFraming.Proofs.Encoding.RoundTrip
import NameFraming.Proofs.Framer.Edits
import NameFraming.Proofs.Framer.LineBreaks
import NameFraming.Proofs.Program
import NameFraming.Proofs.Corpus.Disk
import NameFraming.Proofs.Corpus.Isolation
import NameFraming.Proofs.Corpus.Fixpoint
import NameFraming.Proofs.Corpus.Undecodable
import NameFraming.Proofs.Correction.Corrected
import NameFraming.Proofs.Correction.Order
import NameFraming.Proofs.Framer.Qualifier
import NameFraming.Proofs.Corpus.WriteBack
import NameFraming.Proofs.Corpus.OtherBytes
import NameFraming.Proofs.Corpus.CheckMode
import NameFraming.Proofs.Program.Envelope
import NameFraming.Proofs.Program.Decoding
import NameFraming.Proofs.Scanner
import NameFraming.Proofs.Vocabulary.History
import NameFraming.Proofs.Settings.Revalidation
import NameFraming.Proofs.Text.CaseTable
import NameFraming.Proofs.Text.Lowercasing
import NameFraming.Proofs.Service
import NameFraming.Proofs.Correction.OperandTable
import NameFraming.Proofs.Corpus.Category
import NameFraming.Proofs.Corpus.Accounting
import NameFraming.Proofs.Settings.Coherence
