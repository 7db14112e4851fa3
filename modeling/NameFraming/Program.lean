import NameFraming.Bytes.Base64
import NameFraming.Bytes.Sha256
import NameFraming.Encoding.Codecs
import NameFraming.Framer

/-! Programs as bytes: finding the text in them, and the envelope that a framed program is sent
in. -/

namespace NameFraming

def outputEncoding : String := "utf-8"

structure DecodingReport where
  /-- What the detector answered; it is only asked about bytes that are not UTF-8. -/
  detected : Option String
  used : String
  fallback : Bool
deriving DecidableEq

structure DecodedProgram (ε : Type := Encoding) where
  text : Text
  /-- The encoding that the report names. -/
  encoding : ε
  report : DecodingReport
deriving DecidableEq

/-- UTF-8, whose byte order mark is reported so that it can be written back. -/
def ownEncoding (bytes : Bytes) : Encoding × String :=
  if Utf8.signature.isPrefixOf bytes then (.utf8Signed, "utf-8-sig") else (.utf8, "utf-8")

/-- The encoding that a detector's answer names. No answer, and an empty one, name UTF-8. -/
def answeredEncoding (answer : Option String) : String :=
  match answer with
  | some name => if name.isEmpty then "utf-8" else name
  | none => "utf-8"

namespace Codecs

variable {ε : Type}

/-- The last resort: UTF-8 in which what is wrong was replaced. -/
def repaired (codecs : Codecs ε) (answer : Option String) (bytes : Bytes) : DecodedProgram ε where
  text := Utf8.repair bytes
  encoding := codecs.known .utf8
  report := { detected := answer, used := "utf-8", fallback := true }

/-- Finds the text of a program. Bytes that are UTF-8 are always read as such; for others a detector
gives its answer, and where that names no encoding or one that does not fit, they are repaired. Any
other error is passed on. -/
def decodeProgram (codecs : Codecs ε) (answer : Option String) (bytes : Bytes) :
    Except EncodingError (DecodedProgram ε) :=
  let own := ownEncoding bytes
  match own.1.decode? bytes with
  | some text =>
      .ok
        { text
          encoding := codecs.known own.1
          report := { detected := none, used := own.2, fallback := false } }
  | none =>
      let name := answeredEncoding answer
      match codecs.read name bytes with
      | .ok (some (encoding, text)) =>
          .ok { text, encoding, report := { detected := answer, used := name, fallback := false } }
      | .ok none => .ok (codecs.repaired answer bytes)
      | .error error =>
          if error.isLookup then .ok (codecs.repaired answer bytes) else .error error

end Codecs

/-- What is found where there are no encodings but those of `Encoding`: what is said about it holds
for answers that name one of these, or none at all. An answer that cannot be looked up is taken here
for one that names none. -/
def decodeProgram (answer : Option String) (bytes : Bytes) : DecodedProgram :=
  match Encoding.codecs.decodeProgram answer bytes with
  | .ok decoded => decoded
  | .error _ => Encoding.codecs.repaired answer bytes

/-- What is wrong with a detector's answer that is asked for and cannot be looked up. -/
def answerError? (answer : Option String) (bytes : Bytes) : Option EncodingError :=
  match Encoding.codecs.decodeProgram answer bytes with
  | .ok _ => none
  | .error error => some error

def withAnswer {α : Type} (answer : Option String) (bytes : Bytes) (found : α) :
    Except EncodingError α :=
  match answerError? answer bytes with
  | some error => .error error
  | none => .ok found

structure Envelope where
  content : Bytes
  decoding : DecodingReport
  outcome : Outcome

namespace Envelope

def sha256 (envelope : Envelope) : Text :=
  Sha256.hexDigest envelope.content

def base64 (envelope : Envelope) : Text :=
  Base64.encode envelope.content

/-- An empty program has no lines. -/
def lineCount (envelope : Envelope) : Nat :=
  if envelope.outcome.text.isEmpty then 0 else envelope.outcome.text.lines.length

def ofOutcome (decoding : DecodingReport) (outcome : Outcome) : Envelope :=
  ⟨Utf8.encode outcome.text, decoding, outcome⟩

end Envelope

def Framer.frameProgram (framer : Framer) (answer : Option String) (bytes : Bytes) : Envelope :=
  let decoded := decodeProgram answer bytes
  .ofOutcome decoded.report (framer.frame decoded.text)

end NameFraming
