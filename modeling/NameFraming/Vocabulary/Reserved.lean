import NameFraming.Vocabulary

/-! The reserved words of the corpus language, by what they do in a sentence. -/

namespace NameFraming

namespace Vocabulary

/-- Assignment, choice and the frame of a statement. -/
def coreWords : List String := [
  "PLACED", "AS", "OR", "NOT", "RATHER", "THAN", "EITHER", "END", "IF", "OTHERWISE", "IS", "THEN"]

def temporalWords : List String := [
  "IN", "THE", "STILL", "OF", "NIGHT", "IT", "WAS", "WILL", "BE", "ONCE", "AGAIN", "YET", "BUT",
  "SOON", "ALWAYS", "ALREADY", "WHEN", "PRESSURE", "APPLIED", "FOREVER", "DAY", "LONG", "LASTS",
  "DUE", "COURSE", "AT", "SAME", "MOMENT", "EVENTS", "AFTER", "HERE", "THERE"]

def intentWords : List String := [
  "MAY", "CONSTRUCTED", "NEED", "BUILT", "AND", "RECEIVED", "TO", "WITNESSED", "PER", "SE",
  "WITH", "INTENT", "MALICE", "AFORETHOUGHT", "ALL", "INNOCENCE", "THAT", "MUCH", "ADO"]

/-- Substances, and the units they are measured in. -/
def substanceWords : List String := [
  "MATTER", "COPPER", "BRONZE", "CLAY", "SAND", "EARTH", "LIGHT", "AIR", "FIRE", "DEGREE",
  "DEGREES", "POUND", "POUNDS", "INCH", "INCHES", "FOOT", "FEET", "METER", "METERS", "KILOGRAM",
  "KILOGRAMS", "GRAM", "GRAMS", "OUNCE", "OUNCES"]

def removalWords : List String := [
  "REMOVE", "FROM", "WHICH", "UN", "ABSENCE", "NOTED", "REMOVAL", "LATHING"]

def loopWords : List String := [
  "OVER", "UNTIL", "PERPETUALLY", "REPEATED", "TIMES", "FOR", "EACH"]

def functionWords : List String := [
  "SHOW", "TELL", "CALLED", "RETURN"]

def observerWords : List String := [
  "UPON", "WALL", "FLOOR", "CEILING", "GROUND", "SPOKEN", "ALOUD", "WHISPERED", "INSCRIBED",
  "DESCRIBED", "PRESENTED", "RECEIVER", "HOLD", "MIND", "SEE", "SEEN", "LO", "BEHOLD", "FAR",
  "EYE", "CAN", "RELATION", "DOCUMENTED"]

/-- Operators and the parts of operator phrases. -/
def operatorWords : List String := [
  "SCATTERED", "ACROSS", "GATHERED", "INTO", "PUT", "TOGETHER", "TAKEN", "APART", "PULLED",
  "AWAY", "PRESSED", "AGAINST", "WRAPPED", "AROUND", "BOUND", "DIVIDED", "AMONG", "MULTIPLIED",
  "BY", "DIMINISHED", "REDUCED", "INCREASED", "EXPANDED", "COMPRESSED", "WITHIN", "REMOVED",
  "THROWN", "ASIDE", "SET", "NEXT", "SUSPENDED", "ABOVE", "BELOW", "HELD", "BETWEEN", "PUSHED",
  "BEYOND", "CONFINED", "DRAWN", "THROUGH", "JOINED", "TORN", "TWO", "BROKEN", "PIECES", "FOLDED",
  "HALF", "STACKED", "ON", "TOP", "ANOTHER", "FOUR", "DIRECTIONS", "CONCENTRATED", "ONE", "POINT",
  "STRETCHED", "LIMITS", "CONTRACTED", "CENTER", "ROTATED", "AXIS", "REFLECTED", "INVERTED",
  "WITHOUT", "REPLACED", "OTHER"]

def conditionWords : List String := [
  "PRESENT", "ABSENT", "EXCEEDS", "MEASURE", "NOTHING", "MATCHES", "FORM", "DIFFERS", "EQUAL",
  "GREATER", "LESSER", "CONTAINS", "LACKS"]

def quantifierWords : List String := [
  "A", "ENOUGH", "TOO", "BIT", "LITTLE", "MORE", "LESS", "GIVE", "TAKE", "SUFFICIENT", "MANY",
  "SOME"]

def literalWords : List String := [
  "TRUE", "FALSE", "SUCH", "BITS"]

/-- The sign between two measures, as in `36 X 36`. -/
def measureWords : List String := [
  "X"]

def reservedWords : List Text :=
  [coreWords, temporalWords, intentWords, substanceWords, removalWords, loopWords, functionWords,
    observerWords, operatorWords, conditionWords, quantifierWords, literalWords,
    measureWords].flatten.map String.toList

def reserved : Vocabulary :=
  .ofWords reservedWords

end Vocabulary

end NameFraming
