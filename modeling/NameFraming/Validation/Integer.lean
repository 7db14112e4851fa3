import NameFraming.Text.Blank
import NameFraming.Validation

/-! Whole numbers, also where they come as text. -/

namespace NameFraming.Value

/-- White space around a numeral. The separators of records are not among it. -/
def isPadding (c : Char) : Bool :=
  isBlank c && !(0x1C ≤ c.toNat && c.toNat ≤ 0x1F)

def trimPadding (source : Text) : Text :=
  ((source.dropWhile isPadding).reverse.dropWhile isPadding).reverse

inductive Numeral where
  | number (value : Int)
  | tooLong
  | unreadable

def longestNumeral : Nat := 4300

def splitSign : Text → Text × Text
  | '-' :: rest => (['-'], rest)
  | source => ([], source)

/-- Reads a numeral in its plain form: a hyphen for numbers below zero, and digits without a leading
zero. It is too long as soon as its digits are, whatever follows them. -/
def readPlain (source : Text) : Numeral :=
  let (sign, unsigned) := splitSign source
  let digits := unsigned.takeWhile Char.isDigit
  let magnitude : Nat := digits.foldl (fun held c => held * 10 + (c.toNat - '0'.toNat)) 0
  match digits with
  | [] => .unreadable
  | '0' :: _ :: _ => .unreadable
  | _ =>
      if longestNumeral < digits.length then .tooLong
      else if digits.length < unsigned.length then .unreadable
      else .number (if sign.isEmpty then magnitude else -magnitude)

/-- What is left behind the zeros in front of a numeral: `previous` is the last of them, or an
underscore between them. A hyphen may stand behind them too. -/
def afterZeros (previous : Char) : Text → Option Text
  | [] => some [previous]
  | c :: rest =>
      if c = '0' ∨ c = '_' then afterZeros c rest
      else if c.isDigit ∨ c = '-' then some (c :: rest)
      else if c = '.' then some (previous :: c :: rest)
      else none

/-- Cuts off zeros in front. A numeral without its sign starts with a digit. -/
def withoutLeadingZeros : Text → Option Text
  | '0' :: rest => afterZeros '0' rest
  | c :: rest => if c.isDigit then some (c :: rest) else none
  | [] => none

def withoutZeroPlaces (numeral : Text) : Text :=
  match numeral.dropWhile (· ≠ '.') with
  | '.' :: places =>
      if !places.isEmpty && places.all (· = '0') then numeral.takeWhile (· ≠ '.') else numeral
  | _ => numeral

def hasDoubleUnderscore : Text → Bool
  | '_' :: '_' :: _ => true
  | _ :: rest => hasDoubleUnderscore rest
  | [] => false

/-- Takes out underscores, if they are single and stand neither first nor last. -/
def withoutUnderscores (numeral : Text) : Text :=
  if numeral.head? = some '_' ∨ numeral.getLast? = some '_' ∨ hasDoubleUnderscore numeral then
    numeral
  else numeral.filter (· ≠ '_')

/-- The plain form of a numeral that is written with a plus sign, leading zeros, zero places,
underscores, or white space around it. -/
def plainForm? (source : Text) : Option Text :=
  let signed := match trimPadding source with
    | '+' :: '-' :: _ => none
    | '+' :: rest => some rest
    | numeral => some numeral
  (signed.map splitSign).bind fun (sign, unsigned) =>
    (withoutLeadingZeros unsigned).map fun numeral =>
      sign ++ withoutUnderscores (withoutZeroPlaces numeral)

def readNumeral (source : Text) : Numeral :=
  match readPlain source with
  | .unreadable =>
      match plainForm? source with
      | some plain => readPlain plain
      | none => .unreadable
  | read => read

def asInt : Value → Checked Int
  | .bool value => .valid (if value then 1 else 0)
  | .int value => .valid value
  | .decimal mantissa exponent =>
      match rounded mantissa exponent with
      | .whole value => if roundedFitsWord value then .valid value else .fail .oversizedInteger
      | .fractional => .fail .fractionalInteger
      | .infinite => .fail .notFinite
  | .nonFinite => .fail .notFinite
  | .text source =>
      match readNumeral source with
      | .number value => .valid value
      | .tooLong => .fail .oversizedInteger
      | .unreadable => .fail .unreadableInteger
  | _ => .fail .notInteger

end NameFraming.Value
