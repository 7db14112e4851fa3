import NameFraming.Encoding.Utf8

/-! Encodings in which one byte is one character. -/

namespace NameFraming

inductive SingleByte where
  | ascii
  | latin1
  | windows1252
deriving DecidableEq

namespace SingleByte

/-- The characters of the bytes 80 to 9F; five of these bytes have none. -/
def windowsHigh : List (Option Char) := [
  some '€', none, some '‚', some 'ƒ', some '„', some '…', some '†', some '‡',
  some 'ˆ', some '‰', some 'Š', some '‹', some 'Œ', none, some 'Ž', none,
  none, some '‘', some '’', some '“', some '”', some '•', some '–', some '—',
  some '˜', some '™', some 'š', some '›', some 'œ', none, some 'ž', some 'Ÿ']

def decodeByte? : SingleByte → UInt8 → Option Char
  | ascii, byte => if byte < 0x80 then some (Char.ofNat byte.toNat) else none
  | latin1, byte => some (Char.ofNat byte.toNat)
  | windows1252, byte =>
      if 0x80 ≤ byte ∧ byte < 0xA0 then (windowsHigh[byte.toNat - 0x80]?).join
      else some (Char.ofNat byte.toNat)

def encodeChar? : SingleByte → Char → Option UInt8
  | ascii, c => if c.toNat < 0x80 then some (UInt8.ofNat c.toNat) else none
  | latin1, c => if c.toNat < 0x100 then some (UInt8.ofNat c.toNat) else none
  | windows1252, c =>
      if c.toNat < 0x80 ∨ 0xA0 ≤ c.toNat ∧ c.toNat < 0x100 then some (UInt8.ofNat c.toNat)
      else (windowsHigh.findIdx? (· == some c)).map fun index => UInt8.ofNat (0x80 + index)

def decode? (encoding : SingleByte) (bytes : Bytes) : Option Text :=
  bytes.mapM encoding.decodeByte?

def encode? (encoding : SingleByte) (text : Text) : Option Bytes :=
  text.mapM encoding.encodeChar?

def refusal : SingleByte → String
  | ascii => "ordinal not in range(128)"
  | latin1 => "ordinal not in range(256)"
  | windows1252 => "character maps to <undefined>"

end SingleByte

end NameFraming
