import NameFraming.Text.Quoted

/-! Data as it comes from configuration and goes into log lines. -/

namespace NameFraming

inductive Value where
  | null
  | bool (value : Bool)
  | int (value : Int)
  /-- The number `mantissa · 10 ^ exponent`, written with a point or an exponent. -/
  | decimal (mantissa : Int) (exponent : Int)
  /-- A numeral that stands for no finite number. -/
  | nonFinite
  | text (value : Text)
  /-- Text with surrogates that have no partner, as code points. -/
  | brokenText (codes : List Nat)
  | list (items : List Value)
  | record (fields : List (Text × Value))
deriving Inhabited

namespace Value

def ofString (value : String) : Value :=
  .text value.toList

def ofNat (value : Nat) : Value :=
  .int value

def ofOption (value : Option Text) : Value :=
  match value with
  | some present => .text present
  | none => .null

def ofFields (fields : List (String × Value)) : Value :=
  .record (fields.map fun (key, value) => (key.toList, value))

def kindName : Value → String
  | null => "NoneType"
  | bool _ => "bool"
  | int _ => "int"
  | decimal .. => "float"
  | nonFinite => "float"
  | text _ => "str"
  | brokenText _ => "str"
  | list _ => "list"
  | record _ => "dict"

/-- Whether a value says nothing: nothing is there, no, zero, or empty. -/
def saysNothing : Value → Bool
  | null => true
  | bool value => !value
  | int value => value == 0
  | decimal mantissa _ => mantissa == 0
  | nonFinite => false
  | text value => value.isEmpty
  | brokenText codes => codes.isEmpty
  | list items => items.isEmpty
  | record fields => fields.isEmpty

/-- Digits with a point before the last `scale` of them, and at least one digit on each side. -/
def positionalText (digits : Text) (scale : Nat) : Text :=
  let padded := List.replicate (scale + 1 - digits.length) '0' ++ digits
  let whole := padded.take (padded.length - scale)
  let places := padded.drop (padded.length - scale)
  whole ++ ['.'] ++ (if scale = 0 then ['0'] else places)

/-- A decimal in positional notation, or with an exponent where that would be long. -/
def decimalText (mantissa : Int) (exponent : Int) : Text :=
  let digits := Nat.toDigits 10 mantissa.natAbs
  (if mantissa < 0 then ['-'] else []) ++
    if 0 < exponent ∨ exponent < -20 then digits ++ 'e' :: (toString exponent).toList
    else positionalText digits (-exponent).toNat

/-- A character for a code point; a surrogate, which stands for none, is replaced. -/
def characterOf (code : Nat) : Char :=
  if 0xD800 ≤ code ∧ code ≤ 0xDFFF then '\uFFFD' else Char.ofNat code

def commaSeparated (pieces : List Text) : Text :=
  [',', ' '].intercalate pieces

mutual

def display : Value → Text
  | null => "None".toList
  | bool true => "True".toList
  | bool false => "False".toList
  | int value => (toString value).toList
  | decimal mantissa exponent => decimalText mantissa exponent
  | nonFinite => "nan".toList
  | text value => value.quoted
  | brokenText codes => Text.quoted (codes.map characterOf)
  | list items => '[' :: (commaSeparated (displayAll items) ++ [']'])
  | record fields => '\x7b' :: (commaSeparated (displayFields fields) ++ ['\x7d'])

def displayAll : List Value → List Text
  | [] => []
  | item :: rest => item.display :: displayAll rest

def displayFields : List (Text × Value) → List Text
  | [] => []
  | (key, value) :: rest => (key.quoted ++ [':', ' '] ++ value.display) :: displayFields rest

end

end Value

end NameFraming
