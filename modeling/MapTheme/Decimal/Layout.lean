import MapTheme.Decimal.Shortest

/-! The written form of a double: its shortest digits in a layout. A layout says
which magnitudes are written positionally and whether a whole number keeps a
fraction; exponents are written with their sign. -/
namespace MapTheme.Decimal

structure Layout where
  /-- Whether a number with this exponent of its leading digit is written positionally. -/
  positional : Int → Bool
  /-- Whether a positional whole number ends in `.0`. -/
  fraction : Bool

/-- Numbers in reports: positional from `0.00001` to below `10 ^ 16`, and never
without a fraction. -/
def reportLayout : Layout := ⟨fun k => -5 ≤ k && k < 16, true⟩

/-- Numbers as plain text: always positional, whole numbers without a point. -/
def plainLayout : Layout := ⟨fun _ => true, false⟩

def zeros (n : Int) : List Char := List.replicate n.toNat '0'

/-- The text of `digits · 10 ^ exponent`, for digits that do not end in a zero. -/
def Layout.write (layout : Layout) (digits : Nat) (exponent : Int) : List Char :=
  let ds := Nat.toDigits 10 digits
  let leading : Int := exponent + ds.length - 1
  if layout.positional leading then
    if 0 ≤ exponent then
      ds ++ zeros exponent ++ (if layout.fraction then ['.', '0'] else [])
    else if 0 ≤ leading then
      let (whole, rest) := ds.splitAt (leading + 1).toNat
      whole ++ '.' :: rest
    else ['0', '.'] ++ zeros (-leading - 1) ++ ds
  else
    let mantissa := match ds with
      | [] | [_] => ds
      | d :: rest => d :: '.' :: rest
    let mark := if leading < 0 then '-' else '+'
    mantissa ++ 'e' :: mark :: Nat.toDigits 10 leading.natAbs

/-- The text of a double; `none` for the infinities and for what is not a number. -/
def Layout.text? (layout : Layout) (x : Float) : Option String :=
  let bits := x.toBits.toNat
  let magnitude := bits % 0x8000000000000000
  let mark := if bits = magnitude then [] else ['-']
  if infinityBits ≤ magnitude then none
  else if magnitude = 0 then
    some (String.ofList (mark ++ '0' :: (if layout.fraction then ['.', '0'] else [])))
  else
    let (digits, exponent) := shortest (Binary.ofBits magnitude)
    some (String.ofList (mark ++ layout.write digits exponent))

def specialName (x : Float) (infinity nan : String) : String :=
  if x.isNaN then nan else if x < 0 then "-" ++ infinity else infinity

def plainText (x : Float) : String := (plainLayout.text? x).getD (specialName x "inf" "NaN")

end MapTheme.Decimal
