import NameFraming.Settings.Variable
import NameFraming.Text.Blank

/-! Files of variable bindings, one `NAME=value` a line. -/

namespace NameFraming

namespace EnvFile

def isGap (c : Char) : Bool :=
  isBlank c && c != '\n' && c != '\r'

def skipGap (source : Text) : Text :=
  source.dropWhile isGap

/-- Every line ends in a line feed, also where the file has a carriage return. -/
def unifyLineEnds : Text → Text
  | [] => []
  | '\r' :: '\n' :: rest => '\n' :: unifyLineEnds rest
  | '\r' :: rest => '\n' :: unifyLineEnds rest
  | c :: rest => c :: unifyLineEnds rest

def skipLine (source : Text) : Text :=
  (source.dropWhile (· ≠ '\n')).drop 1

def skipExport (source : Text) : Text :=
  let word := "export".toList
  if word.isPrefixOf source then
    match source.drop word.length with
    | c :: rest => if isGap c then skipGap rest else source
    | [] => source
  else source

/-- Splits at a closing quote. A backslash keeps the character after it inside, whatever it is. -/
def splitQuoted? (mark : Char) : Text → Option (Text × Text)
  | [] => none
  | ['\\'] => none
  | '\\' :: c :: rest =>
      (splitQuoted? mark rest).map fun (body, after) => ('\\' :: c :: body, after)
  | c :: rest =>
      if c = mark then some ([], rest)
      else (splitQuoted? mark rest).map fun (body, after) => (c :: body, after)

/-- Escapes between single quotes stand for a backslash or a single quote. -/
def singleEscape? : Char → Option Char
  | '\\' => some '\\'
  | '\'' => some '\''
  | _ => none

def doubleEscape? : Char → Option Char
  | '\\' => some '\\'
  | '\'' => some '\''
  | '"' => some '"'
  | 'a' => some '\x07'
  | 'b' => some '\x08'
  | 'f' => some '\x0c'
  | 'n' => some '\n'
  | 'r' => some '\r'
  | 't' => some '\t'
  | 'v' => some '\x0b'
  | _ => none

def unescape (escape? : Char → Option Char) : Text → Text
  | '\\' :: c :: rest =>
      match escape? c with
      | some escaped => escaped :: unescape escape? rest
      | none => '\\' :: unescape escape? (c :: rest)
  | c :: rest => c :: unescape escape? rest
  | [] => []

/-- Cuts off a comment, which starts with a number sign after white space. -/
def withoutComment : Text → Text
  | [] => []
  | c :: rest =>
      if isBlank c && ((c :: rest).dropWhile isBlank).head? == some '#' then []
      else c :: withoutComment rest

/-- The value after an equals sign, and what follows it on the line. A value that is not quoted may
be nothing but a comment, if a gap separates it from the sign. -/
def readValue? (source : Text) : Option (Text × Text) :=
  match skipGap source with
  | '\'' :: rest =>
      (splitQuoted? '\'' rest).map fun (body, after) => (unescape singleEscape? body, after)
  | '"' :: rest =>
      (splitQuoted? '"' rest).map fun (body, after) => (unescape doubleEscape? body, after)
  | _ =>
      let line := source.takeWhile (· ≠ '\n')
      some ((withoutComment line).strip, source.dropWhile (· ≠ '\n'))

/-- A name stands in single quotes, or runs up to white space, an equals sign or a comment. -/
def readName? (source : Text) : Option (Text × Text) :=
  match source with
  | '\'' :: rest =>
      let name := rest.takeWhile (· ≠ '\'')
      match rest.dropWhile (· ≠ '\'') with
      | _ :: after => if name.isEmpty then none else some (name, after)
      | [] => none
  | _ =>
      let ends (c : Char) : Bool := c == '=' || c == '#' || isBlank c
      let name := source.takeWhile (!ends ·)
      if name.isEmpty then none else some (name, source.dropWhile (!ends ·))

/-- The rest of a line may hold a comment and nothing else. -/
def endLine? (source : Text) : Option Text :=
  let uncommented := match skipGap source with
    | '#' :: rest => rest.dropWhile (· ≠ '\n')
    | _ => source
  match skipGap uncommented with
  | [] => some []
  | '\n' :: rest => some rest
  | _ => none

/-- Reads one binding. The second part is where reading goes on: after the line, or, for a line that
cannot be read, after the rest of the line on which it failed. -/
def readBinding (source : Text) : Option Binding × Text :=
  match source with
  | '#' :: _ => (none, skipLine source)
  | _ =>
      match readName? (skipExport source) with
      | none => (none, skipLine (skipExport source))
      | some (name, afterName) =>
          match skipGap afterName with
          | '=' :: afterSign =>
              match readValue? afterSign with
              | none => (none, skipLine (skipGap afterSign))
              | some (value, after) =>
                  match endLine? after with
                  | some rest => (some (name, some value), rest)
                  | none => (none, skipLine after)
          | after =>
              match endLine? after with
              | some rest => (some (name, none), rest)
              | none => (none, skipLine after)

/-- Reads bindings until the file ends; each uses up at least a character. -/
def readBindings : Nat → Text → List Binding
  | 0, _ => []
  | fuel + 1, source =>
      match source.stripStart with
      | [] => []
      | start =>
          match readBinding start with
          | (some binding, rest) => binding :: readBindings fuel rest
          | (none, rest) => readBindings fuel rest

/-- Reads `${name}` and `${name:-default}`, after the dollar sign. -/
def readReference? (source : Text) : Option (Text × Option Text × Text) :=
  match source with
  | '\x7b' :: rest =>
      let stops (c : Char) : Bool := c == '\x7d' || c == ':'
      let name := rest.takeWhile (!stops ·)
      match rest.dropWhile (!stops ·) with
      | '\x7d' :: after => some (name, none, after)
      | ':' :: '-' :: after =>
          match after.dropWhile (· ≠ '\x7d') with
          | _ :: done => some (name, some (after.takeWhile (· ≠ '\x7d')), done)
          | [] => none
      | _ => none
  | _ => none

/-- Puts in the values of variables. A variable without a value is empty, one that is not known
takes the default of the reference. -/
def expand (known : List Binding) : Nat → Text → Text
  | 0, source => source
  | _ + 1, [] => []
  | fuel + 1, c :: rest =>
      if c = '$' then
        match readReference? rest with
        | some (name, default, after) =>
            let value := match known.lookup name with
              | some held => held.getD []
              | none => default.getD []
            value ++ expand known fuel after
        | none => c :: expand known fuel rest
      else c :: expand known fuel rest

/-- Expands the values of bindings. A value may use the variables bound before it, which come before
those of the environment. A name that is bound again keeps its place and takes the later value. -/
def expandAll (environment : List Binding) (held : List Binding) : List Binding → List Binding
  | [] => held
  | (name, value) :: rest =>
      let known := held ++ environment
      let expanded := value.map fun text => expand known (text.length + 1) text
      expandAll environment (bindName name expanded held) rest

/-- A file may start with a byte order mark, which says nothing. -/
def withoutMark : Text → Text
  | '\uFEFF' :: rest => rest
  | source => source

def parse (environment : Environment) (source : Text) : List Binding :=
  let unified := unifyLineEnds (withoutMark source)
  expandAll (environment.map fun (name, value) => (name, some value)) []
    (readBindings (unified.length + 1) unified)

end EnvFile

end NameFraming
