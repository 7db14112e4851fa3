import NameFraming.Text.Uppercasing
import NameFraming.Value

/-! Log events, and the lines that show them. -/

namespace NameFraming

inductive LogLevel where
  | debug
  | info
  | warning
  | error
  | critical
deriving DecidableEq

namespace LogLevel

def label : LogLevel → String
  | debug => "debug"
  | info => "info"
  | warning => "warning"
  | error => "error"
  | critical => "critical"

def rank : LogLevel → Nat
  | debug => 10
  | info => 20
  | warning => 30
  | error => 40
  | critical => 50

end LogLevel

structure Event where
  level : LogLevel
  name : String
  source : String
  fields : List (String × Value) := []

structure LogFormat where
  threshold : Nat
  json : Bool

inductive LogError where
  /-- A level goes by the name of a template for lines. -/
  | templateAsLevel (template : String)
  /-- A level goes by the name of the table of templates. -/
  | tableAsLevel (table : String)
  | noLevel
  /-- A fact has a name that is taken by the event itself. -/
  | takenName (name : String)

def LogError.message : LogError → String
  | templateAsLevel template => s!"Unknown level: '{template}'"
  | tableAsLevel table => s!"Level not an integer or a valid string: {table}"
  | noLevel => "'list' object has no attribute 'upper'"
  | takenName name => s!"BoundLogger.debug() got multiple values for argument '{name}'"

def levelRanks : List (String × Nat) :=
  [("CRITICAL", 50), ("FATAL", 50), ("ERROR", 40), ("WARNING", 30), ("WARN", 30), ("INFO", 20),
    ("DEBUG", 10), ("NOTSET", 0)]

def lineTemplate : String :=
  "%(levelname)s:%(name)s:%(message)s"

def lineTemplates : String :=
  "\x7b'%': (<class 'logging.PercentStyle'>, '%(levelname)s:%(name)s:%(message)s'), " ++
    "'\x7b': (<class 'logging.StrFormatStyle'>, " ++
    "'\x7blevelname\x7d:\x7bname\x7d:\x7bmessage\x7d'), " ++
    "'$': (<class 'logging.StringTemplateStyle'>, " ++
    "'$\x7blevelname\x7d:$\x7bname\x7d:$\x7bmessage\x7d')\x7d"

inductive LogLine where
  | plain (text : Text)
  | record (value : Value)

namespace LogFormat

/-- Levels are named in any case, and an unknown name means `info`. Two names are refused because
they belong to the templates of log lines. -/
def ofLevel (level : Text) (json : Bool) : Except LogError LogFormat :=
  let name := String.ofList (upper level)
  match levelRanks.lookup name with
  | some rank => .ok ⟨rank, json⟩
  | none =>
      if name = "BASIC_FORMAT" then .error (.templateAsLevel lineTemplate)
      else if name = "_STYLES" then .error (.tableAsLevel lineTemplates)
      else .ok ⟨20, json⟩

def configured (format : LogFormat) : Event :=
  { level := .debug
    name := "logging_configured"
    source := "lwframe.log"
    fields := [("json_output", .bool format.json)] }

end LogFormat

def padEnd (width : Nat) (text : Text) : Text :=
  text ++ List.replicate (width - text.length) ' '

/-- Text stands as it is unless a reader could not tell where it ends. -/
def fieldText : Value → Text
  | .text value =>
      if value.any [' ', '\t', '=', '\r', '\n', '"', '\''].contains then value.quoted else value
  | value => value.display

namespace Event

def takenNames : List String :=
  ["event", "self"]

def checkNames (fields : List (String × Value)) : Except LogError (List (String × Value)) :=
  match fields.find? fun field => takenNames.contains field.1 with
  | some field => .error (.takenName field.1)
  | none => .ok fields

/-- Names that belong to the log itself; facts of these names are left out. -/
def ownKeys : List String :=
  ["level", "logger", "timestamp", "stack_info", "_record"]

/-- Facts that a line to read shows in a place of their own. -/
def placedKeys : List String :=
  ["logger_name", "stack", "exception", "exc_info"]

def sortedFields (event : Event) : List (String × Value) :=
  (event.fields.filter fun field => !ownKeys.contains field.1).mergeSort
    fun left right => !decide (right.1 < left.1)

def plainText : Value → Text
  | .text value => value
  | value => value.display

/-- The fact of a name, if there is one that is not null. -/
def told? (event : Event) (key : String) : Option Text :=
  match event.fields.lookup key with
  | none => none
  | some .null => none
  | some value => some (plainText value)

def head (event : Event) : Text :=
  ['['] ++ padEnd 9 event.level.label.toList ++ [']', ' '] ++ padEnd 30 event.name.toList ++
    [' ', '['] ++ event.source.toList ++ [']'] ++
    match event.fields.lookup "logger_name" with
    | some value => [' ', '['] ++ plainText value ++ [']']
    | none => []

/-- What stands below a line: the calls that led to the event, and the error that it tells of. A
rule divides the two. -/
def below (event : Event) : Text :=
  let error := event.told? "exception"
  let isError := error.isSome || (event.fields.lookup "exc_info").any (!·.saysNothing)
  let rule := if isError then ['\n', '\n'] ++ List.replicate 79 '=' ++ ['\n'] else []
  let calls := match event.told? "stack" with
    | some stack => '\n' :: (stack ++ rule)
    | none => []
  calls ++ match error with
    | some message => '\n' :: message
    | none => []

def toText (event : Event) : Text :=
  let facts := event.sortedFields.filter fun field => !placedKeys.contains field.1
  let shown := facts.flatMap fun (key, value) => ' ' :: (key.toList ++ '=' :: fieldText value)
  event.head ++ shown ++ event.below

def toRecord (event : Event) : Value :=
  .ofFields <| event.sortedFields ++
    [("event", .ofString event.name), ("level", .ofString event.level.label),
      ("logger", .ofString event.source)]

end Event

namespace LogFormat

def shows (format : LogFormat) (event : Event) : Bool :=
  format.threshold ≤ event.level.rank

/-- The lines of one event; empty ones are not kept. -/
def eventLines (format : LogFormat) (event : Event) : List LogLine :=
  if format.json then [.record event.toRecord]
  else (event.toText.lines.filter (!·.isEmpty)).map .plain

def lines (format : LogFormat) (events : List Event) : List LogLine :=
  (events.filter format.shows).flatMap format.eventLines

end LogFormat

end NameFraming
