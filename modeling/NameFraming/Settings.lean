import NameFraming.Framer
import NameFraming.Text.Uppercasing
import NameFraming.Validation

/-! Settings, and the checks that bring them into their canonical form. -/

namespace NameFraming

def standardSuffix : Text := ['.', 'l', 'w']

structure Settings where
  corpusDir : Text := "tests/artifacts".toList
  corpusSuffix : Text := standardSuffix
  materialPreposition : Text := MaterialQuality.standardPreposition
  materialQualities : List Text := MaterialQuality.standardMaterials
  extraKeywords : List Text := []
  logLevel : Text := "info".toList
  logJson : Bool := false
deriving DecidableEq

/-- The form in which a word is kept: without white space around it, in upper case. -/
def canonicalWord (value : Text) : Text :=
  upper value.strip

def isWord (word : Text) : Bool :=
  !word.isEmpty && word.all isWordChar

/-- The canonical forms of the values, each once, in the order of their first occurrence; or the
first value that is not a single word. -/
def canonicalWordsFrom (held : List Text) : List Text → Except Text (List Text)
  | [] => .ok held
  | value :: rest =>
      let word := canonicalWord value
      if isWord word then
        canonicalWordsFrom (if held.contains word then held else held ++ [word]) rest
      else .error value

def canonicalWords (values : List Text) : Except Text (List Text) :=
  canonicalWordsFrom [] values

/-- A suffix has no white space around it and starts with a point. -/
def canonicalSuffix (value : Text) : Option Text :=
  match value.strip with
  | [] => none
  | '.' :: rest => some ('.' :: rest)
  | suffix => some ('.' :: suffix)

namespace Settings

def fieldNames : List String :=
  ["corpus_dir", "corpus_suffix", "material_preposition", "material_qualities", "extra_keywords",
    "log_level", "log_json"]

/-- The settings that are lists; as text they are written in JSON. -/
def listFields : List String :=
  ["material_qualities", "extra_keywords"]

def checkWords (values : List Text) : Checked (List Text) :=
  match canonicalWords values with
  | .ok words => .valid words
  | .error value => .fail (.notOneWord value)

/-- Text that is given as a value: well-formed, or code points with surrogates among them. -/
abbrev GivenText := Except (List Nat) Text

def givenText : Value → Checked GivenText
  | .text value => .valid (.ok value)
  | .brokenText codes => .valid (.error codes)
  | _ => .fail .notString

/-- The texts in front of the first one that is not well-formed, and that one. -/
def leadingTexts : List GivenText → List Text × Option (List Nat)
  | [] => ([], none)
  | .error codes :: _ => ([], some codes)
  | .ok value :: rest =>
      let (texts, broken) := leadingTexts rest
      (value :: texts, broken)

/-- Checks words that may not be well-formed; such a one is never a word. -/
def checkGivenWords (values : List GivenText) : Checked (List Text) :=
  let (texts, broken) := leadingTexts values
  match checkWords texts, broken with
  | .valid _, some codes => .fail (.brokenWord codes)
  | checked, _ => checked

def checkPreposition (value : Text) : Checked Text :=
  if isWord (canonicalWord value) then .valid (canonicalWord value) else .fail (.notOneWord value)

def checkSuffix (value : Text) : Checked Text :=
  match canonicalSuffix value with
  | some suffix => .valid suffix
  | none => .fail .emptySuffix

def checkField {α : Type} (given : List (String × Value)) (name : String) (default : α)
    (check : Value → Checked α) : Checked α :=
  match given.lookup name with
  | some value => (check value).under (.field name.toList)
  | none => .valid default

/-- Checks given values; fields that are not given keep their standard values. -/
def check (given : List (String × Value)) : Checked Settings :=
  let standard : Settings := {}
  let words (value : Value) := (value.asList givenText).andThen checkGivenWords
  (Checked.valid Settings.mk)
    |>.and (checkField given "corpus_dir" standard.corpusDir Value.asString)
    |>.and (checkField given "corpus_suffix" standard.corpusSuffix
      fun value => value.asString.andThen checkSuffix)
    |>.and (checkField given "material_preposition" standard.materialPreposition
      fun value => value.asString.andThen checkPreposition)
    |>.and (checkField given "material_qualities" standard.materialQualities words)
    |>.and (checkField given "extra_keywords" standard.extraKeywords words)
    |>.and (checkField given "log_level" standard.logLevel Value.asString)
    |>.and (checkField given "log_json" standard.logJson Value.asBool)

end Settings

/-- Materials are names everywhere but after the preposition, so they are not reserved, unless they
are among the extra keywords. -/
def Framer.ofSettings (settings : Settings) : Framer :=
  { vocabulary :=
      (Vocabulary.reserved.without settings.materialQualities).extended settings.extraKeywords
    rules := Rule.withMaterials settings.materialQualities settings.materialPreposition }

end NameFraming
