import NameFraming.Encoding.Utf8
import NameFraming.Text.Hex

/-! Where bytes stop being UTF-8, and where code points cannot be written in it, each with the words
that say so. -/

namespace NameFraming.Utf8

inductive Cause where
  | noStart
  | noContinuation
  | truncated
deriving DecidableEq

def Cause.reason : Cause → String
  | noStart => "invalid start byte"
  | noContinuation => "invalid continuation byte"
  | truncated => "unexpected end of data"

/-- The first bytes that are no character: where they stand, how many they are, and the first of
them. -/
structure Fault where
  position : Nat
  count : Nat
  byte : UInt8
  cause : Cause
deriving DecidableEq

namespace Fault

def place (fault : Fault) : String :=
  if fault.count = 1 then
    let byte := String.ofList (hexDigits 2 fault.byte.toNat)
    s!"byte 0x{byte} in position {fault.position}"
  else s!"bytes in position {fault.position}-{fault.position + fault.count - 1}"

def message (fault : Fault) : String :=
  s!"'utf-8' codec can't decode {fault.place}: {fault.cause.reason}"

end Fault

structure Pending where
  first : UInt8
  count : Nat
  state : Begun

/-- Reads on from a position in the middle of a character or, with `none`, between two. The position
is that of the next whole character. -/
def faultFrom (position : Nat) : Option Pending → Bytes → Option Fault
  | none, [] => none
  | some pending, [] => some ⟨position, pending.count, pending.first, .truncated⟩
  | none, byte :: rest =>
      match lead byte with
      | .whole _ => faultFrom (position + 1) none rest
      | .begun state => faultFrom position (some ⟨byte, 1, state⟩) rest
      | .illFormed => some ⟨position, 1, byte, .noStart⟩
  | some pending, byte :: rest =>
      if pending.state.lower ≤ byte ∧ byte ≤ pending.state.upper then
        if pending.state.owed = 1 then faultFrom (position + pending.count + 1) none rest
        else
          let state := { value := 0, owed := pending.state.owed - 1 }
          faultFrom position (some ⟨pending.first, pending.count + 1, state⟩) rest
      else some ⟨position, pending.count, pending.first, .noContinuation⟩

def decode (bytes : Bytes) : Except Fault Text :=
  match faultFrom 0 none bytes with
  | some fault => .error fault
  | none => .ok (repair bytes)

def isSurrogate (code : Nat) : Bool :=
  0xD800 ≤ code && code ≤ 0xDFFF

/-- What is said of code points that cannot be written because of the surrogates among them, when
`before` characters stand in front of them. The first run of surrogates is named. -/
def refusal (before : Nat) (codes : List Nat) : String :=
  let start := before + (codes.takeWhile (!isSurrogate ·)).length
  let place := match (codes.dropWhile (!isSurrogate ·)).takeWhile isSurrogate with
    | [code] =>
        let digits := String.ofList (hexDigits 4 code)
        s!"character '\\u{digits}' in position {start}"
    | run => s!"characters in position {start}-{start + run.length - 1}"
  s!"'utf-8' codec can't encode {place}: surrogates not allowed"

end NameFraming.Utf8
