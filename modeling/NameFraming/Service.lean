import NameFraming.Framer.Events
import NameFraming.Program.EnvelopeValue
import NameFraming.Startup

/-! The service: answers to single requests. -/

namespace NameFraming

/-- A file in a form. Without a name it arrives as plain text. -/
structure Upload where
  field : Text := "file".toList
  name : Text
  content : Bytes

structure Request where
  method : Text
  /-- The path as it stands in the address, with escapes and a query. -/
  target : Text
  upload : Option Upload := none

structure Response where
  status : Nat
  body : Value
  events : List Event := []

inductive RequestError where
  | addressTooLong
  | unprintable (c : Char) (position : Nat)
  /-- The detector's answer that the request needs cannot be looked up. -/
  | encoding (error : EncodingError)

def RequestError.message : RequestError → String
  | addressTooLong => "URL too long"
  | unprintable c position =>
      let shown := String.ofList (Text.quoted [c])
      s!"Invalid non-printable ASCII character in URL, {shown} at position {position}."
  | encoding error => error.message

namespace Request

def longestTarget : Nat := 65536

def isControl (c : Char) : Bool :=
  c.toNat < 0x20 || c.toNat == 0x7F

def targetError? (request : Request) : Option RequestError :=
  if longestTarget < request.target.length then some .addressTooLong
  else
    (request.target.find? isControl).map fun c =>
      .unprintable c (request.target.takeWhile (!isControl ·)).length

end Request

inductive Route where
  | health
  | frame
  | keyword (word : Text)

namespace Route

/-- The bytes that an address stands for: `%41` is the byte 41. -/
def unescape : Text → Bytes
  | '%' :: high :: low :: rest =>
      match hexValue? high, hexValue? low with
      | some first, some second => UInt8.ofNat (first * 16 + second) :: unescape rest
      | _, _ => Utf8.encode ['%'] ++ unescape (high :: low :: rest)
  | c :: rest => Utf8.encode [c] ++ unescape rest
  | [] => []

/-- Passes over a host, which stands behind two slashes. -/
def afterHost : Text → Text
  | '/' :: '/' :: rest => rest.dropWhile (· ≠ '/')
  | address => address

/-- Resolves the segments that stand for the place itself and for the one above; `held` are the
segments before, last first. -/
def resolveSegments (held : List Text) : List Text → List Text
  | [] => held.reverse
  | segment :: rest =>
      if segment = ['.'] then resolveSegments held rest
      else if segment = ['.', '.'] then resolveSegments held.tail rest
      else resolveSegments (segment :: held) rest

/-- The path of an address, from the root on and without query and escapes. Escapes are resolved
twice, where the address is written and where it is read. -/
def pathOf (target : Text) : Text :=
  let address := afterHost (target.takeWhile fun c => c ≠ '?' ∧ c ≠ '#')
  let segments := resolveSegments [] ((address.dropWhile (· = '/')).splitOn '/')
  let once := Utf8.repair (unescape ('/' :: ['/'].intercalate segments))
  Utf8.repair (unescape once)

/-- Whether a path is the given one; a line feed may stand behind it. -/
def isAt (path : Text) (fixed : String) : Bool :=
  path == fixed.toList || path == fixed.toList ++ ['\n']

def find? (target : Text) : Option Route :=
  let path := pathOf target
  let keywords := "/keywords/".toList
  if isAt path "/health" then some .health
  else if isAt path "/frame" then some .frame
  else if keywords.isPrefixOf path then
    let word := path.drop keywords.length
    if word.isEmpty || word.contains '/' then none else some (.keyword word)
  else none

def method : Route → Text
  | health => "GET".toList
  | frame => "POST".toList
  | keyword _ => "GET".toList

end Route

namespace Response

def refusal (status : Nat) (detail : Value) : Response :=
  ⟨status, .ofFields [("detail", detail)], []⟩

def invalidFile (kind message : String) (given : Value) (more : List (String × Value)) : Response :=
  refusal 422 <| .list [.ofFields <|
    [("type", .ofString kind), ("loc", .list [.ofString "body", .ofString "file"]),
      ("msg", .ofString message), ("input", given)] ++ more]

def missingFile : Response :=
  invalidFile "missing" "Field required" .null []

def textInsteadOfFile (content : Text) : Response :=
  invalidFile "value_error" "Value error, Expected UploadFile, received: <class 'str'>"
    (.text content) [("ctx", .ofFields [("error", .record [])])]

end Response

structure Service where
  settings : Settings
  /-- What the detector answers about bytes that are not UTF-8. -/
  answer : Option String := none

namespace Service

/-- Whether an uploaded file counts as a program: its name in lower case ends with the suffix. -/
def accepts (service : Service) (name : Text) : Bool :=
  service.settings.corpusSuffix.isSuffixOf (lower name)

def framer (service : Service) : Framer :=
  .ofSettings service.settings

def formText (content : Bytes) : Text :=
  (Utf8.decode? content).getD (content.map fun byte => Char.ofNat byte.toNat)

def frameUpload (service : Service) (upload : Upload) : Response :=
  if upload.name.isEmpty then
    if upload.content.isEmpty then .missingFile else .textInsteadOfFile (formText upload.content)
  else if service.accepts upload.name then
    let events := service.framer.events (decodeProgram service.answer upload.content).text
    ⟨200, (service.framer.frameProgram service.answer upload.content).toValue, events⟩
  else
    .refusal 422
      (.text ("Only ".toList ++ service.settings.corpusSuffix ++ " programs are supported".toList))

def respond (service : Service) (request : Request) : Response :=
  match Route.find? request.target with
  | none => .refusal 404 (.ofString "Not Found")
  | some route =>
      if request.method ≠ route.method then .refusal 405 (.ofString "Method Not Allowed")
      else
        match route with
        | .health => ⟨200, .ofFields [("ok", .bool true)], []⟩
        | .keyword word =>
            let answer := [("word", .text word), ("keyword", .bool (service.framer.isKeyword word))]
            ⟨200, .ofFields answer, []⟩
        | .frame =>
            match request.upload with
            | some upload =>
                if upload.field = "file".toList then service.frameUpload upload else .missingFile
            | none => .missingFile

def programIn? (service : Service) (request : Request) : Option Bytes :=
  match Route.find? request.target, request.upload with
  | some .frame, some upload =>
      if request.method = Route.frame.method ∧ upload.field = "file".toList ∧
          !upload.name.isEmpty ∧ service.accepts upload.name then some upload.content
      else none
  | _, _ => none

/-- Answers a request, unless its address is none or it needs a detector's answer that cannot be
looked up. -/
def attempt (service : Service) (request : Request) : Except RequestError Response :=
  match request.targetError?, service.programIn? request with
  | some error, _ => .error error
  | none, some content =>
      (withAnswer service.answer content (service.respond request)).mapError .encoding
  | none, none => .ok (service.respond request)

def start (environment : Environment) (envFile : Option Bytes) (answer : Option String) :
    Except StartupError (Service × LogFormat) := do
  let settings ← loadSettings environment envFile
  let format ← startLog (some settings.logLevel) settings.logJson
  return (⟨settings, answer⟩, format)

end Service

end NameFraming
