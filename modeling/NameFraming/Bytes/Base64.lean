import NameFraming.Encoding.Utf8

/-! Base64: bytes as text of sixty-four characters. -/

namespace NameFraming.Base64

def alphabet : Text :=
  "ABCDEFGHIJKLMNOPQRSTUVWXYZabcdefghijklmnopqrstuvwxyz0123456789+/".toList

def symbol (sextet : Nat) : Char :=
  (alphabet[sextet]?).getD '='

/-- Three bytes make four symbols; `=` fills up the last group. -/
def encode : Bytes → Text
  | [] => []
  | [a] => [symbol (a.toNat / 4), symbol (a.toNat % 4 * 16), '=', '=']
  | [a, b] =>
      [symbol (a.toNat / 4), symbol (a.toNat % 4 * 16 + b.toNat / 16),
        symbol (b.toNat % 16 * 4), '=']
  | a :: b :: c :: rest =>
      symbol (a.toNat / 4) :: symbol (a.toNat % 4 * 16 + b.toNat / 16) ::
        symbol (b.toNat % 16 * 4 + c.toNat / 64) :: symbol (c.toNat % 64) :: encode rest

def decode? : Text → Option Bytes
  | [] => some []
  | [a, b, '=', '='] => do
      let a ← alphabet.idxOf? a
      let b ← alphabet.idxOf? b
      return [UInt8.ofNat (a * 4 + b / 16)]
  | [a, b, c, '='] => do
      let a ← alphabet.idxOf? a
      let b ← alphabet.idxOf? b
      let c ← alphabet.idxOf? c
      return [UInt8.ofNat (a * 4 + b / 16), UInt8.ofNat (b % 16 * 16 + c / 4)]
  | a :: b :: c :: d :: rest => do
      let a ← alphabet.idxOf? a
      let b ← alphabet.idxOf? b
      let c ← alphabet.idxOf? c
      let d ← alphabet.idxOf? d
      let later ← decode? rest
      return UInt8.ofNat (a * 4 + b / 16) :: UInt8.ofNat (b % 16 * 16 + c / 4) ::
        UInt8.ofNat (c % 4 * 64 + d) :: later
  | _ => none

end NameFraming.Base64
