import NameFraming.Text

/-! Variables by name, in the order in which they were first bound. -/

namespace NameFraming

/-- Binds a name to a value. A name that is bound already keeps its place. -/
def bindName {α : Type} (name : Text) (value : α) : List (Text × α) → List (Text × α)
  | [] => [(name, value)]
  | entry :: rest =>
      if entry.1 = name then (name, value) :: rest else entry :: bindName name value rest

abbrev Environment := List (Text × Text)

namespace Environment

def set (environment : Environment) (name value : Text) : Environment :=
  bindName name value environment

def unset (environment : Environment) (name : Text) : Environment :=
  environment.filter fun entry => entry.1 != name

end Environment

/-- A name, and its value if the line that binds it has one. -/
abbrev Binding := Text × Option Text

end NameFraming
