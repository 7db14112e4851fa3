import NameFraming.Value
import NameFraming.Value.Binary64

/-! Checking data from outside. All that is wrong with it is reported, in the order of its fields.
-/

namespace NameFraming

inductive LocationStep where
  | field (name : Text)
  | index (position : Nat)

inductive Fault where
  | notOneWord (value : Text)
  /-- The value that is not one word cannot even be shown. -/
  | brokenWord (codes : List Nat)
  | emptySuffix
  | notString
  | notList
  | notRecord
  | notModel (name : String)
  | notBoolean
  | unreadableBoolean
  | notInteger
  | unreadableInteger
  | fractionalInteger
  | oversizedInteger
  | notFinite
  | missing

namespace Fault

def label : Fault → String
  | notOneWord _ => "value_error"
  | brokenWord _ => "value_error"
  | emptySuffix => "value_error"
  | notString => "string_type"
  | notList => "list_type"
  | notRecord => "dict_type"
  | notModel _ => "model_type"
  | notBoolean => "bool_type"
  | unreadableBoolean => "bool_parsing"
  | notInteger => "int_type"
  | unreadableInteger => "int_parsing"
  | fractionalInteger => "int_from_float"
  | oversizedInteger => "int_parsing_size"
  | notFinite => "finite_number"
  | missing => "missing"

def message : Fault → String
  | notOneWord value => s!"Value error, '{String.ofList value}' is not a single word"
  | brokenWord codes =>
      s!"Value error, '{String.ofList (codes.map Value.characterOf)}' is not a single word"
  | emptySuffix => "Value error, corpus_suffix must not be empty"
  | notString => "Input should be a valid string"
  | notList => "Input should be a valid list"
  | notRecord => "Input should be a valid dictionary"
  | notModel name => s!"Input should be a valid dictionary or instance of {name}"
  | notBoolean => "Input should be a valid boolean"
  | unreadableBoolean => "Input should be a valid boolean, unable to interpret input"
  | notInteger => "Input should be a valid integer"
  | unreadableInteger => "Input should be a valid integer, unable to parse string as an integer"
  | fractionalInteger => "Input should be a valid integer, got a number with a fractional part"
  | oversizedInteger => "Unable to parse input string as an integer, exceeded maximum size"
  | notFinite => "Input should be a finite number"
  | missing => "Field required"

end Fault

structure Issue where
  location : List LocationStep
  fault : Fault

/-- A value, or everything that keeps it from being one. -/
inductive Checked (α : Type) where
  | valid (value : α)
  | invalid (issues : List Issue)

namespace Checked

variable {α β : Type}

def issues : Checked α → List Issue
  | valid _ => []
  | invalid issues => issues

def fail (fault : Fault) : Checked α :=
  .invalid [⟨[], fault⟩]

def map (f : α → β) : Checked α → Checked β
  | valid value => .valid (f value)
  | invalid issues => .invalid issues

/-- Goes on with a value; what is wrong already ends the check. -/
def andThen (checked : Checked α) (next : α → Checked β) : Checked β :=
  match checked with
  | valid value => next value
  | invalid issues => .invalid issues

/-- Applies a checked function to a checked value and keeps the issues of both. -/
def and (function : Checked (α → β)) (checked : Checked α) : Checked β :=
  match function, checked with
  | valid f, valid value => .valid (f value)
  | function, checked => .invalid (function.issues ++ checked.issues)

def under (step : LocationStep) : Checked α → Checked α
  | valid value => .valid value
  | invalid issues =>
      .invalid (issues.map fun issue => { issue with location := step :: issue.location })

def items (check : Value → Checked α) : Nat → List Value → Checked (List α)
  | _, [] => .valid []
  | index, item :: rest =>
      (((check item).under (.index index)).map List.cons).and (items check (index + 1) rest)

def fields (check : Value → Checked α) : List (Text × Value) → Checked (List (Text × α))
  | [] => .valid []
  | (key, value) :: rest =>
      (((check value).under (.field key)).map fun checked => List.cons (key, checked)).and
        (fields check rest)

end Checked

namespace Value

def asString : Value → Checked Text
  | .text value => .valid value
  | _ => .fail .notString

def asOptionalString : Value → Checked (Option Text)
  | .null => .valid none
  | value => value.asString.map some

def asList {α : Type} (check : Value → Checked α) : Value → Checked (List α)
  | .list values => .items check 0 values
  | _ => .fail .notList

def asRecord {α : Type} (check : Value → Checked α) : Value → Checked (List (Text × α))
  | .record fields => .fields check fields
  | _ => .fail .notRecord

def truthWords : List (String × Bool) :=
  [("0", false), ("off", false), ("f", false), ("false", false), ("n", false), ("no", false),
    ("1", true), ("on", true), ("t", true), ("true", true), ("y", true), ("yes", true)]

/-- A number that was written with a point or an exponent, as the format nearest to it has it. -/
inductive Rounded where
  | whole (value : Int)
  | fractional
  | infinite

def rounded (mantissa exponent : Int) : Rounded :=
  match Binary64.ofDecimal? mantissa.natAbs exponent with
  | none => .infinite
  | some multiple =>
      match Binary64.whole? multiple with
      | some magnitude => .whole (if mantissa < 0 then -magnitude else magnitude)
      | none => .fractional

def fitsWord (value : Int) : Bool :=
  -0x8000000000000000 ≤ value && value ≤ 0x7FFFFFFFFFFFFFFF

/-- Rounded numbers count as whole up to the largest word; the smallest word is already too far. -/
def roundedFitsWord (value : Int) : Bool :=
  -0x8000000000000000 < value && value ≤ 0x7FFFFFFFFFFFFFFF

def truthOfInt (value : Int) : Checked Bool :=
  if value = 0 then .valid false
  else if value = 1 then .valid true
  else .fail .unreadableBoolean

def asBool : Value → Checked Bool
  | .bool value => .valid value
  | .text value =>
      match truthWords.lookup (String.ofList (value.map Char.toLower)) with
      | some truth => .valid truth
      | none => .fail .unreadableBoolean
  | .int value => if fitsWord value then truthOfInt value else .fail .notBoolean
  | .decimal mantissa exponent =>
      match rounded mantissa exponent with
      | .whole value => if roundedFitsWord value then truthOfInt value else .fail .notBoolean
      | _ => .fail .notBoolean
  | _ => .fail .notBoolean

end Value

end NameFraming
