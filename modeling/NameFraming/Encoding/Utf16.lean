import NameFraming.Encoding.Utf8

/-! UTF-16 in either byte order. -/

namespace NameFraming.Utf16

inductive ByteOrder where
  | little
  | big
deriving DecidableEq

def unitBytes (order : ByteOrder) (unit : Nat) : Bytes :=
  let high := UInt8.ofNat (unit / 0x100)
  let low := UInt8.ofNat unit
  match order with
  | .little => [low, high]
  | .big => [high, low]

/-- A character beyond the first plane takes two units. -/
def charUnits (c : Char) : List Nat :=
  if c.toNat < 0x10000 then [c.toNat]
  else [0xD800 + (c.toNat - 0x10000) / 0x400, 0xDC00 + (c.toNat - 0x10000) % 0x400]

def encode (order : ByteOrder) (text : Text) : Bytes :=
  text.flatMap fun c => (charUnits c).flatMap (unitBytes order)

/-- Reads code units; an odd byte at the end is an error. -/
def units? (order : ByteOrder) : Bytes → Option (List Nat)
  | [] => some []
  | [_] => none
  | first :: second :: rest =>
      let unit := match order with
        | .little => second.toNat * 0x100 + first.toNat
        | .big => first.toNat * 0x100 + second.toNat
      (units? order rest).map (unit :: ·)

def isHigh (unit : Nat) : Bool :=
  0xD800 ≤ unit && unit < 0xDC00

def isLow (unit : Nat) : Bool :=
  0xDC00 ≤ unit && unit < 0xE000

/-- Joins the two units of a pair; a surrogate without its partner is an error. -/
def chars? : List Nat → Option Text
  | [] => some []
  | unit :: rest =>
      if isHigh unit then
        match rest with
        | low :: later =>
            if isLow low then
              (chars? later).map
                (Char.ofNat (0x10000 + (unit - 0xD800) * 0x400 + (low - 0xDC00)) :: ·)
            else none
        | [] => none
      else if isLow unit then none
      else (chars? rest).map (Char.ofNat unit :: ·)

def decode? (order : ByteOrder) (bytes : Bytes) : Option Text :=
  (units? order bytes).bind chars?

def signature : Bytes := [0xFF, 0xFE]

/-- Lets a byte order mark choose the order and takes it off. Without one the order is little. -/
def decodeMarked? : Bytes → Option Text
  | 0xFF :: 0xFE :: rest => decode? .little rest
  | 0xFE :: 0xFF :: rest => decode? .big rest
  | bytes => decode? .little bytes

def encodeMarked (text : Text) : Bytes :=
  signature ++ encode .little text

end NameFraming.Utf16
