/-! The numbers of the binary64 format. Each finite one is a whole multiple of the smallest, which
is `2 ^ (-1074)`, and is given here by that multiple. -/

namespace NameFraming.Binary64

/-- The whole number nearest to a quotient; a half goes to the even neighbour. -/
def roundQuotient (numerator denominator : Nat) : Nat :=
  let whole := numerator / denominator
  let twiceRest := 2 * (numerator % denominator)
  if twiceRest < denominator then whole
  else if denominator < twiceRest then whole + 1
  else whole + whole % 2

def bitLength (number : Nat) : Nat :=
  if number = 0 then 0 else number.log2 + 1

/-- The multiple that is nearest to a quotient among those of 53 significant binary digits. -/
def nearest (numerator denominator : Nat) : Nat :=
  let scaled := numerator <<< 1074
  let step := 1 <<< (bitLength (scaled / denominator) - 53)
  roundQuotient scaled (denominator * step) * step

/-- The multiple nearest to `mantissa · 10 ^ exponent`, or none if that lies beyond the largest
number of the format. Numerals far below the smallest or far above the largest number are told by
their length alone. -/
def ofDecimal? (mantissa : Nat) (exponent : Int) : Option Nat :=
  let magnitude := (Nat.toDigits 10 mantissa).length + exponent
  if mantissa = 0 ∨ magnitude < -330 then some 0
  else if 310 < magnitude then none
  else
    let multiple :=
      if 0 ≤ exponent then nearest (mantissa * Nat.pow 10 exponent.toNat) 1
      else nearest mantissa (Nat.pow 10 (-exponent).toNat)
    if bitLength multiple ≤ 2098 then some multiple else none

def whole? (multiple : Nat) : Option Nat :=
  if multiple % (1 <<< 1074) = 0 then some (multiple >>> 1074) else none

end NameFraming.Binary64
