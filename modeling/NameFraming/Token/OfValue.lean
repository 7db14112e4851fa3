import NameFraming.Token
import NameFraming.Value

/-! Token kinds from data. -/

namespace NameFraming

structure UnknownKind where
  value : Value

def UnknownKind.message (unknown : UnknownKind) : String :=
  s!"{String.ofList unknown.value.display} is not a valid TokenKind"

def TokenKind.ofValue (value : Value) : Except UnknownKind TokenKind :=
  match value with
  | .text label =>
      match TokenKind.ofLabel? (String.ofList label) with
      | some kind => .ok kind
      | none => .error ⟨value⟩
  | _ => .error ⟨value⟩

end NameFraming
