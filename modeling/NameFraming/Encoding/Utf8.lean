import NameFraming.Text

/-! UTF-8: the strict reading, and one that repairs what is not UTF-8. -/

namespace NameFraming

abbrev Bytes := List UInt8

namespace Utf8

def encode (text : Text) : Bytes :=
  text.flatMap String.utf8EncodeChar

def decode? (bytes : Bytes) : Option Text :=
  (String.fromUTF8? bytes.toByteArray).map String.toList

def signature : Bytes := [0xEF, 0xBB, 0xBF]

/-- A character that has begun: the value of its bytes so far, how many bytes are to come, and the
range in which the next one must lie. -/
structure Begun where
  value : Nat
  owed : Nat
  lower : UInt8 := 0x80
  upper : UInt8 := 0xBF

inductive Lead where
  | whole (c : Char)
  | begun (state : Begun)
  | illFormed

/-- What a first byte announces. The ranges leave out forms that are too long, surrogates, and
numbers beyond the last code point. -/
def lead (byte : UInt8) : Lead :=
  if byte < 0x80 then .whole (Char.ofNat byte.toNat)
  else if byte < 0xC2 then .illFormed
  else if byte < 0xE0 then .begun { value := byte.toNat - 0xC0, owed := 1 }
  else if byte = 0xE0 then .begun { value := 0, owed := 2, lower := 0xA0 }
  else if byte = 0xED then .begun { value := 0xD, owed := 2, upper := 0x9F }
  else if byte < 0xF0 then .begun { value := byte.toNat - 0xE0, owed := 2 }
  else if byte = 0xF0 then .begun { value := 0, owed := 3, lower := 0x90 }
  else if byte < 0xF4 then .begun { value := byte.toNat - 0xF0, owed := 3 }
  else if byte = 0xF4 then .begun { value := 4, owed := 3, upper := 0x8F }
  else .illFormed

def replacement : Char := '\uFFFD'

/-- Reads on in the middle of a character or, with `none`, between two. Each part that can begin a
character but does not go on as one, and each byte that can begin none, becomes one replacement
character. -/
def repairFrom : Option Begun → Bytes → Text
  | none, [] => []
  | some _, [] => [replacement]
  | none, byte :: rest =>
      match lead byte with
      | .whole c => c :: repairFrom none rest
      | .begun state => repairFrom (some state) rest
      | .illFormed => replacement :: repairFrom none rest
  | some state, byte :: rest =>
      if state.lower ≤ byte ∧ byte ≤ state.upper then
        let value := state.value * 0x40 + (byte.toNat - 0x80)
        if state.owed = 1 then Char.ofNat value :: repairFrom none rest
        else repairFrom (some { value, owed := state.owed - 1 }) rest
      else
        replacement ::
          match lead byte with
          | .whole c => c :: repairFrom none rest
          | .begun next => repairFrom (some next) rest
          | .illFormed => replacement :: repairFrom none rest

def repair (bytes : Bytes) : Text :=
  repairFrom none bytes

end Utf8

end NameFraming
