import MapTheme.Decimal.Literal

/-! The double nearest to a literal. The quotient of two whole numbers is brought
to 53 binary digits, or to the fixed spacing of the smallest doubles, and rounded
once, a tie to the even neighbour. -/
namespace MapTheme.Decimal

def roundHalfEven (numerator denominator : Nat) : Nat :=
  let q := numerator / denominator
  let r := numerator % denominator
  if 2 * r < denominator then q
  else if denominator < 2 * r then q + 1
  else q + q % 2

/-- The greatest `e` with `2 ^ e ≤ numerator / denominator`, for a positive quotient. -/
def binaryExponent (numerator denominator : Nat) : Int :=
  let e : Int := (numerator.log2 : Int) - denominator.log2
  let reaches := if 0 ≤ e then denominator * Nat.pow 2 e.toNat ≤ numerator
    else denominator ≤ numerator * Nat.pow 2 (-e).toNat
  if reaches then e else e - 1

/-- `2 ^ 52`, the weight of the digit that the encoding of most doubles leaves out. -/
def hiddenBit : Nat := 0x10000000000000

def infinityBits : Nat := 2047 * hiddenBit

/-- The encoding of the double nearest to a positive quotient. Doubles whose last
digit weighs `2 ^ q` are `(q + 1074) · 2 ^ 52` and up, so a mantissa that rounds up
to the next power of two carries into the exponent by itself. -/
def nearestBits (numerator denominator : Nat) : Nat :=
  if numerator = 0 then 0
  else
    let q := max (binaryExponent numerator denominator - 52) (-1074)
    let mantissa := if 0 ≤ q then roundHalfEven numerator (denominator * Nat.pow 2 q.toNat)
      else roundHalfEven (numerator * Nat.pow 2 (-q).toNat) denominator
    min ((q + 1074).toNat * hiddenBit + mantissa) infinityBits

/-- The encoding of the double nearest to `digits · 10 ^ exponent`. Magnitudes far
outside the range of doubles are settled without computing the power. -/
def decimalBits (digits : Nat) (exponent : Int) : Nat :=
  if digits = 0 then 0
  else if 310 < exponent then infinityBits
  else if exponent + (digits.log2 / 3 + 1 : Nat) < -330 then 0
  else if 0 ≤ exponent then nearestBits (digits * Nat.pow 10 exponent.toNat) 1
  else nearestBits digits (Nat.pow 10 (-exponent).toNat)

def nanBits : Nat := 0x7FF8000000000000

def Literal.toFloat : Literal → Float
  | .finite negative digits exponent =>
    let x := Float.ofBits (UInt64.ofNat (decimalBits digits exponent))
    if negative then -x else x
  | .infinite negative =>
    let x := Float.ofBits (UInt64.ofNat infinityBits)
    if negative then -x else x
  | .nan => Float.ofBits (UInt64.ofNat nanBits)

def readFloat? (cs : List Char) : Option Float := (read? cs).map Literal.toFloat

end MapTheme.Decimal
