import MapTheme.Decimal.Nearest

/-! The fewest decimal digits that read back as a given double. A double stands for
the interval of numbers that round to it, ends included when its mantissa is even.
On the grid of `n`-digit decimals only the two neighbours of the double need a look:
if any point of the grid lies in the interval, one of them does. The first grid with
a hit wins, of two hits the nearer, and of two equally near ones the even. -/
namespace MapTheme.Decimal

/-- A positive double as `mantissa · 2 ^ exponent`. -/
structure Binary where
  mantissa : Nat
  exponent : Int
deriving Repr, DecidableEq

def Binary.ofBits (bits : Nat) : Binary :=
  let field : Nat := bits / hiddenBit
  let low : Nat := bits % hiddenBit
  if field = 0 then ⟨low, -1074⟩ else ⟨low + hiddenBit, (field : Int) - 1075⟩

/-- A double and the interval that rounds to it, as numerators over one denominator. -/
structure Spread where
  low : Nat
  value : Nat
  high : Nat
  denominator : Nat
  closed : Bool
deriving Repr

/-- The spacing below a power of two is half of the spacing above it, except at the
bottom of the range, where it no longer shrinks. -/
def Binary.spread (b : Binary) : Spread :=
  let unit : Int := b.exponent - 2
  let scale := Nat.pow 2 unit.toNat
  let below := if b.mantissa = hiddenBit ∧ b.exponent ≠ -1074 then 1 else 2
  { low := (4 * b.mantissa - below) * scale
    value := 4 * b.mantissa * scale
    high := (4 * b.mantissa + 2) * scale
    denominator := Nat.pow 2 (-unit).toNat
    closed := b.mantissa % 2 = 0 }

def Spread.shift (s : Spread) (exponent : Int) : Spread :=
  let up := Nat.pow 10 exponent.toNat
  { s with
    low := s.low * up
    value := s.value * up
    high := s.high * up
    denominator := s.denominator * Nat.pow 10 (-exponent).toNat }

def Spread.covers (s : Spread) (n : Nat) : Bool :=
  let n := n * s.denominator
  if s.closed then s.low ≤ n && n ≤ s.high else s.low < n && n < s.high

/-- The whole number in the interval that is nearest to the value, if one of the
value's two neighbours lies there. -/
def Spread.whole? (s : Spread) : Option Nat :=
  let floor := s.value / s.denominator
  let nearest := roundHalfEven s.value s.denominator
  let other := if nearest = floor then floor + 1 else floor
  if s.covers nearest then some nearest
  else if s.covers other then some other
  else none

def Spread.leading (s : Spread) : Int :=
  let guess := binaryExponent s.value s.denominator * 30103 / 100000
  let reaches (k : Int) : Bool :=
    s.denominator * Nat.pow 10 k.toNat ≤ s.value * Nat.pow 10 (-k).toNat
  if reaches (guess + 1) then guess + 1 else if reaches guess then guess else guess - 1

def stripZeros (digits : Nat) (exponent : Int) : Nat → Nat × Int
  | 0 => (digits, exponent)
  | n + 1 =>
    if digits % 10 = 0 then stripZeros (digits / 10) (exponent + 1) n else (digits, exponent)

/-- Digits without zeros at the end, and the exponent of the last of them. Seventeen
digits always suffice. -/
def shortest (b : Binary) : Nat × Int :=
  let s := b.spread
  let k := s.leading
  let hit := (List.range 17).findSome? fun (n : Nat) =>
    let last : Int := k - n
    ((s.shift (-last)).whole?).map fun digits => (digits, last)
  match hit with
  | some (digits, exponent) => stripZeros digits exponent 18
  | none => (b.mantissa, 0)

end MapTheme.Decimal
