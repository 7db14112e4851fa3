import NameFraming.Text

/-! Paths of files and directories. -/

namespace NameFraming

/-- The components of a path. Empty components and single points say nothing and are not kept. -/
structure Path where
  /-- The slashes that an absolute path starts with. -/
  anchor : Text := []
  parts : List Text
deriving DecidableEq

namespace Path

/-- Two slashes in front have a meaning of their own, any other number of them is one. -/
def anchorOf : Text → Text
  | '/' :: '/' :: '/' :: _ => ['/']
  | '/' :: '/' :: _ => ['/', '/']
  | '/' :: _ => ['/']
  | _ => []

def ofText (source : Text) : Path :=
  { anchor := anchorOf source
    parts := (source.splitOn '/').filter fun part => !part.isEmpty && part != ['.'] }

def toText (path : Path) : Text :=
  if path.anchor.isEmpty && path.parts.isEmpty then ['.']
  else path.anchor ++ ['/'].intercalate path.parts

/-- The last component; a path without components has the empty name. -/
def name (path : Path) : Text :=
  path.parts.getLast?.getD []

def child (path : Path) (name : Text) : Path :=
  { path with parts := path.parts ++ [name] }

/-- The name up to its last point, unless that point is its first or last character. -/
def stem (path : Path) : Text :=
  let reversed := path.name.reverse
  let extension := reversed.takeWhile (· ≠ '.')
  match reversed.dropWhile (· ≠ '.') with
  | _ :: body => if extension.isEmpty || body.isEmpty then path.name else body.reverse
  | [] => path.name

end Path

end NameFraming
