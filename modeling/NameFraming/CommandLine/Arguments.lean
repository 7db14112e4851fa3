import NameFraming.Settings
import NameFraming.Text.Quoted

/-! The arguments of the command line. Options may stand anywhere and be shortened as long as only
one fits; two hyphens end them. -/

namespace NameFraming

/-- What the command was asked to do. An option whose value was taken away has none. -/
structure Arguments where
  directory : Text
  suffix : Option Text
  check : Bool := false
  strict : Bool := false
  json : Bool := false
  logLevel : Option Text
deriving DecidableEq

inductive CommandOption where
  | help
  | suffix
  | check
  | strict
  | json
  | logLevel
deriving DecidableEq

namespace CommandOption

/-- Every spelling of an option, in the order in which they are compared. -/
def spellings : List (Text × CommandOption) :=
  [("-h".toList, .help), ("--help".toList, .help), ("--suffix".toList, .suffix),
    ("--check".toList, .check), ("--strict".toList, .strict), ("--json".toList, .json),
    ("--log-level".toList, .logLevel)]

def takesValue : CommandOption → Bool
  | suffix => true
  | logLevel => true
  | _ => false

def title : CommandOption → Text
  | help => "-h/--help".toList
  | suffix => "--suffix".toList
  | check => "--check".toList
  | strict => "--strict".toList
  | json => "--json".toList
  | logLevel => "--log-level".toList

end CommandOption

inductive ArgumentError where
  | ambiguous (argument : Text) (candidates : List Text)
  | valueExpected (option : CommandOption)
  | valueIgnored (option : CommandOption) (value : Text)
  | unrecognized (arguments : List Text)
deriving DecidableEq

def ArgumentError.message : ArgumentError → Text
  | ambiguous argument candidates =>
      "ambiguous option: ".toList ++ argument ++ " could match ".toList ++
        [',', ' '].intercalate candidates
  | valueExpected option => "argument ".toList ++ option.title ++ ": expected one argument".toList
  | valueIgnored option value =>
      "argument ".toList ++ option.title ++ ": ignored explicit argument ".toList ++ value.quoted
  | unrecognized arguments => "unrecognized arguments: ".toList ++ [' '].intercalate arguments

/-- What an argument is, before any option has taken its value. -/
inductive ArgumentMark where
  | option (option : CommandOption) (joined : Option Text)
  /-- The short help option with more characters behind it, directly or after an equals sign. -/
  | helpRun (tail : Text)
  | stray (argument : Text)
  | separator
  | plain (argument : Text)
deriving DecidableEq

namespace ArgumentMark

/-- Numbers below zero look like options but are not meant so. A line feed may stand behind them. -/
def isNegativeNumber : Text → Bool
  | '-' :: rest =>
      let number := if rest.getLast? = some '\n' then rest.dropLast else rest
      let digits := number.takeWhile isDecimal
      match number.dropWhile isDecimal with
      | [] => !digits.isEmpty
      | '.' :: places => !places.isEmpty && places.all isDecimal
      | _ => false
  | _ => false

def splitJoined (argument : Text) : Text × Option Text :=
  match argument.dropWhile (· ≠ '=') with
  | _ :: value => (argument.takeWhile (· ≠ '='), some value)
  | [] => (argument, none)

def ofUnknown (argument : Text) : ArgumentMark :=
  if isNegativeNumber argument || argument.contains ' ' then .plain argument else .stray argument

/-- An argument with two hyphens in front that is no full spelling of an option. -/
def ofShortened (argument : Text) : Except ArgumentError ArgumentMark :=
  let (start, value) := splitJoined argument
  match CommandOption.spellings.filter fun (spelling, _) => start.isPrefixOf spelling with
  | [] => .ok (ofUnknown argument)
  | [(_, found)] => .ok (.option found value)
  | candidates => .error (.ambiguous argument (candidates.map Prod.fst))

def ofArgument (argument : Text) : Except ArgumentError ArgumentMark :=
  match argument with
  | ['-'] => .ok (.plain argument)
  | '-' :: second :: tail =>
      let (start, value) := splitJoined argument
      match CommandOption.spellings.lookup argument, CommandOption.spellings.lookup start with
      | some found, _ => .ok (.option found none)
      | none, some found =>
          if start = ['-', 'h'] then .ok (.helpRun (value.getD [])) else .ok (.option found value)
      | none, none =>
          if second = '-' then ofShortened argument
          else if second = 'h' then .ok (.helpRun tail)
          else .ok (ofUnknown argument)
  | _ => .ok (.plain argument)

/-- Marks all arguments. An ambiguous one is found here, before anything is done. -/
def ofArguments : List Text → Except ArgumentError (List ArgumentMark)
  | [] => .ok []
  | argument :: rest =>
      if argument = ['-', '-'] then .ok (.separator :: rest.map .plain)
      else do
        let mark ← ofArgument argument
        let later ← ofArguments rest
        return mark :: later

/-- What is behind the short help option: more of the same, or something that it cannot take. -/
def checkHelpRun : Text → Except ArgumentError Unit
  | ['h'] => .ok ()
  | 'h' :: tail => checkHelpRun tail
  | tail => .error (.valueIgnored .help tail)

end ArgumentMark

/-- Whether the directory may still be given. The separator belongs to it when it stands before or
directly behind it. -/
inductive DirectorySlot where
  | free
  | justTaken
  | closed
deriving DecidableEq

/-- An option closes a place that has just been taken. -/
def DirectorySlot.afterOption : DirectorySlot → DirectorySlot
  | free => .free
  | _ => .closed

inductive ParsedArguments where
  | help
  | arguments (arguments : Arguments)
deriving DecidableEq

namespace Arguments

/-- The value that is joined to an option. Two hyphens are no value, even there. -/
def joinedValue (value : Text) : Option Text :=
  if value = ['-', '-'] then none else some value

def set (arguments : Arguments) (option : CommandOption) (value : Option Text) : Arguments :=
  match option with
  | .help => arguments
  | .suffix => { arguments with suffix := value }
  | .check => { arguments with check := true }
  | .strict => { arguments with strict := true }
  | .json => { arguments with json := true }
  | .logLevel => { arguments with logLevel := value }

/-- Goes through marked arguments; `unused` are those that nothing has taken, last first. -/
def parseMarks (arguments : Arguments) (slot : DirectorySlot) (unused : List Text) :
    List ArgumentMark → Except ArgumentError ParsedArguments
  | [] =>
      if unused.isEmpty then .ok (.arguments arguments) else .error (.unrecognized unused.reverse)
  | .plain argument :: rest =>
      match slot with
      | .free => parseMarks { arguments with directory := argument } .justTaken unused rest
      | _ => parseMarks arguments .closed (argument :: unused) rest
  | .separator :: rest =>
      match slot with
      | .free => parseMarks arguments .free unused rest
      | .justTaken => parseMarks arguments .closed unused rest
      | .closed => parseMarks arguments .closed (['-', '-'] :: unused) rest
  | .stray argument :: rest =>
      parseMarks arguments slot.afterOption (argument :: unused) rest
  | .helpRun tail :: _ => do
      ArgumentMark.checkHelpRun tail
      return .help
  | .option option (some value) :: rest =>
      if option.takesValue then
        parseMarks (arguments.set option (joinedValue value)) slot.afterOption unused rest
      else .error (.valueIgnored option value)
  | .option option none :: rest =>
      if option.takesValue then
        match rest with
        | .plain value :: later =>
            parseMarks (arguments.set option (some value)) slot.afterOption unused later
        | _ => .error (.valueExpected option)
      else if option = .help then .ok .help
      else parseMarks (arguments.set option none) slot.afterOption unused rest

/-- Reads the arguments. What is not given comes from the settings. -/
def parse (settings : Settings) (arguments : List Text) : Except ArgumentError ParsedArguments := do
  let marks ← ArgumentMark.ofArguments arguments
  let start : Arguments :=
    { directory := settings.corpusDir
      suffix := some settings.corpusSuffix
      logLevel := some settings.logLevel }
  parseMarks start .free [] marks

end Arguments

end NameFraming
