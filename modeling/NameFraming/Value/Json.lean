import NameFraming.Value

/-! The JSON notation of values: reading it, and writing it on one line or over indented ones. -/

namespace NameFraming.Value

def hexUnit? (a b c d : Char) : Option Nat := do
  return (((← hexValue? a) * 16 + (← hexValue? b)) * 16 + (← hexValue? c)) * 16 + (← hexValue? d)

def shortEscape? : Char → Option Char
  | '"' => some '"'
  | '\\' => some '\\'
  | '/' => some '/'
  | 'b' => some '\x08'
  | 'f' => some '\x0c'
  | 'n' => some '\n'
  | 'r' => some '\r'
  | 't' => some '\t'
  | _ => none

/-- Reads the rest of a string after its opening quote, as code points; `held` are those before,
last first. Control characters must be escaped, and an escaped surrogate stays what it is. -/
def readCodes? (held : List Nat) : Text → Option (List Nat × Text)
  | [] => none
  | '"' :: rest => some (held.reverse, rest)
  | '\\' :: 'u' :: a :: b :: c :: d :: rest =>
      match hexUnit? a b c d with
      | some code => readCodes? (code :: held) rest
      | none => none
  | '\\' :: c :: rest =>
      match shortEscape? c with
      | some escaped => readCodes? (escaped.toNat :: held) rest
      | none => none
  | c :: rest =>
      if c.toNat < 0x20 ∨ c = '\\' then none else readCodes? (c.toNat :: held) rest

def isHighSurrogate (code : Nat) : Bool :=
  0xD800 ≤ code && code ≤ 0xDBFF

def isLowSurrogate (code : Nat) : Bool :=
  0xDC00 ≤ code && code ≤ 0xDFFF

/-- Two surrogates that make a pair are one code point. -/
def joinPairs : List Nat → List Nat
  | high :: low :: rest =>
      if isHighSurrogate high && isLowSurrogate low then
        (0x10000 + (high - 0xD800) * 0x400 + (low - 0xDC00)) :: joinPairs rest
      else high :: joinPairs (low :: rest)
  | codes => codes

def ofCodes (codes : List Nat) : Value :=
  if codes.any fun code => isHighSurrogate code || isLowSurrogate code then .brokenText codes
  else .text (codes.map Char.ofNat)

def readString? (source : Text) : Option (List Nat × Text) :=
  (readCodes? [] source).map fun (codes, after) => (joinPairs codes, after)

def digitsValue (digits : Text) : Nat :=
  digits.foldl (fun held c => held * 10 + (c.toNat - '0'.toNat)) 0

def readPlaces : Text → Text × Text
  | '.' :: c :: rest =>
      if c.isDigit then (c :: rest.takeWhile Char.isDigit, rest.dropWhile Char.isDigit)
      else ([], '.' :: c :: rest)
  | source => ([], source)

def readExponent (source : Text) : Option Int × Text :=
  match source with
  | mark :: rest =>
      if mark = 'e' ∨ mark = 'E' then
        let signed : Int × Text := match rest with
          | '-' :: digits => (-1, digits)
          | '+' :: digits => (1, digits)
          | digits => (1, digits)
        match signed.2.takeWhile Char.isDigit with
        | [] => (none, source)
        | digits => (some (signed.1 * digitsValue digits), signed.2.dropWhile Char.isDigit)
      else (none, source)
  | [] => (none, source)

def longestWhole : Nat := 4300

/-- Reads an unsigned numeral: no digit but zero itself may follow a leading zero. -/
def readNumber? (negative : Bool) (source : Text) : Option (Value × Text) :=
  let whole := match source with
    | '0' :: _ => ['0']
    | _ => source.takeWhile Char.isDigit
  if whole.isEmpty then none
  else
    let (places, afterPlaces) := readPlaces (source.drop whole.length)
    let (exponent, rest) := readExponent afterPlaces
    let magnitude := digitsValue (whole ++ places)
    let mantissa : Int := if negative then -magnitude else magnitude
    match places, exponent with
    | [], none => if longestWhole < whole.length then none else some (.int mantissa, rest)
    | _, _ => some (.decimal mantissa (exponent.getD 0 - places.length), rest)

def skipSpace (source : Text) : Text :=
  source.dropWhile fun c => c = ' ' ∨ c = '\t' ∨ c = '\n' ∨ c = '\r'

def literals : List (Text × Value) :=
  [("null".toList, .null), ("true".toList, .bool true), ("false".toList, .bool false),
    ("NaN".toList, .nonFinite), ("Infinity".toList, .nonFinite), ("-Infinity".toList, .nonFinite)]

def readLiteral? (source : Text) : Option (Value × Text) :=
  (literals.find? fun (word, _) => word.isPrefixOf source).map fun (word, value) =>
    (value, source.drop word.length)

inductive JsonError where
  | malformed
  /-- Lists or records stand too deep inside one another; the innermost is a record or not. -/
  | tooDeep (record : Bool)
deriving DecidableEq

def deepestNesting : Nat := 970

def orMalformed {α : Type} (found : Option α) : Except JsonError α :=
  match found with
  | some value => .ok value
  | none => .error .malformed

def readAtom? (source : Text) : Option (Value × Text) :=
  match readLiteral? source with
  | some found => some found
  | none =>
      match source with
      | '-' :: rest => readNumber? true rest
      | _ => readNumber? false source

mutual

/-- Reads one value. Every nested value uses up a character, so the length of the text is fuel
enough; `room` is how many more lists and records may be opened around one another. -/
def readValue (room : Nat) : Nat → Text → Except JsonError (Value × Text)
  | 0, _ => .error .malformed
  | fuel + 1, source =>
      match source with
      | '"' :: rest => do
          let (codes, after) ← orMalformed (readString? rest)
          return (ofCodes codes, after)
      | '[' :: rest =>
          if room = 0 then .error (.tooDeep false)
          else
            match skipSpace rest with
            | ']' :: after => .ok (.list [], after)
            | inside => do
                let (items, after) ← readItems (room - 1) fuel inside
                return (.list items, after)
      | '\x7b' :: rest =>
          if room = 0 then .error (.tooDeep true)
          else
            match skipSpace rest with
            | '\x7d' :: after => .ok (.record [], after)
            | inside => do
                let (fields, after) ← readFields (room - 1) fuel inside
                return (.record fields, after)
      | _ => orMalformed (readAtom? source)

def readItems (room : Nat) : Nat → Text → Except JsonError (List Value × Text)
  | 0, _ => .error .malformed
  | fuel + 1, source => do
      let (item, after) ← readValue room fuel source
      match skipSpace after with
      | ',' :: rest =>
          let (items, done) ← readItems room fuel (skipSpace rest)
          return (item :: items, done)
      | ']' :: rest => return ([item], rest)
      | _ => .error .malformed

def readFields (room : Nat) : Nat → Text → Except JsonError (List (Text × Value) × Text)
  | 0, _ => .error .malformed
  | fuel + 1, source =>
      match source with
      | '"' :: afterQuote => do
          let (codes, afterKey) ← orMalformed (readString? afterQuote)
          let key := codes.map characterOf
          match skipSpace afterKey with
          | ':' :: afterColon =>
              let (value, after) ← readValue room fuel (skipSpace afterColon)
              match skipSpace after with
              | ',' :: rest =>
                  let (fields, done) ← readFields room fuel (skipSpace rest)
                  return ((key, value) :: fields, done)
              | '\x7d' :: rest => return ([(key, value)], rest)
              | _ => .error .malformed
          | _ => .error .malformed
      | _ => .error .malformed

end

def ofJson (text : Text) : Except JsonError Value := do
  let (value, rest) ← readValue deepestNesting (text.length + 1) (skipSpace text)
  if (skipSpace rest).isEmpty then return value else .error .malformed

def jsonEscape (c : Char) : Text :=
  if c = '"' ∨ c = '\\' then ['\\', c]
  else if c = '\n' then ['\\', 'n']
  else if c = '\r' then ['\\', 'r']
  else if c = '\t' then ['\\', 't']
  else if c = '\x08' then ['\\', 'b']
  else if c = '\x0c' then ['\\', 'f']
  else if c.toNat < 0x20 then '\\' :: 'u' :: hexDigits 4 c.toNat
  else [c]

def jsonString (text : Text) : Text :=
  '"' :: (text.flatMap jsonEscape ++ ['"'])

/-- Items on lines of their own, two spaces deeper than the brackets around them; or all on one
line, when there is no depth. -/
def block (opening closing : Char) (depth : Option Nat) (items : List Text) : Text :=
  match depth with
  | none => [opening] ++ [',', ' '].intercalate items ++ [closing]
  | some outerDepth =>
      let inner := '\n' :: List.replicate (2 * (outerDepth + 1)) ' '
      let outer := '\n' :: List.replicate (2 * outerDepth) ' '
      [opening] ++ inner ++ (',' :: inner).intercalate items ++ outer ++ [closing]

def deeper (depth : Option Nat) : Option Nat :=
  depth.map (· + 1)

mutual

/-- Writes a value that starts at a depth. An empty list or record stays on its line. -/
def jsonAt (depth : Option Nat) : Value → Text
  | null => "null".toList
  | bool true => "true".toList
  | bool false => "false".toList
  | int value => (toString value).toList
  | decimal mantissa exponent => decimalText mantissa exponent
  | nonFinite => "NaN".toList
  | text value => jsonString value
  | brokenText codes => jsonString (codes.map characterOf)
  | list [] => ['[', ']']
  | list (item :: rest) => block '[' ']' depth (itemsJsonAt (deeper depth) (item :: rest))
  | record [] => ['\x7b', '\x7d']
  | record (field :: rest) =>
      block '\x7b' '\x7d' depth (fieldsJsonAt (deeper depth) (field :: rest))

def itemsJsonAt (depth : Option Nat) : List Value → List Text
  | [] => []
  | item :: rest => item.jsonAt depth :: itemsJsonAt depth rest

def fieldsJsonAt (depth : Option Nat) : List (Text × Value) → List Text
  | [] => []
  | (key, value) :: rest =>
      (jsonString key ++ [':', ' '] ++ value.jsonAt depth) :: fieldsJsonAt depth rest

end

def toJson (value : Value) : Text :=
  value.jsonAt none

def toIndentedJson (value : Value) : Text :=
  value.jsonAt (some 0)

end NameFraming.Value
