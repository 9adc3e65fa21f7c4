/-! Hexadecimal digits, lower case when written, either case when read. -/
namespace MapTheme.Text

def hexDigits : List Char :=
  ['0', '1', '2', '3', '4', '5', '6', '7', '8', '9', 'a', 'b', 'c', 'd', 'e', 'f']

def hexDigit (n : Nat) : Char := hexDigits.getD n '0'

def hexValue? (c : Char) : Option Nat := hexDigits.idxOf? c.toLower

def isHex (c : Char) : Bool := (hexValue? c).isSome

def hexNumber (cs : List Char) : Nat :=
  cs.foldl (fun n c => 16 * n + (hexValue? c).getD 0) 0

/-- The last `width` digits of a number. -/
def hexText : Nat → Nat → List Char
  | 0, _ => []
  | width + 1, n => hexText width (n / 16) ++ [hexDigit (n % 16)]

theorem hexNumber_append_singleton (cs : List Char) (c : Char) :
    hexNumber (cs ++ [c]) = 16 * hexNumber cs + (hexValue? c).getD 0 := by
  simp [hexNumber]

theorem hexValue?_hexDigit {n : Nat} (h : n < 16) : hexValue? (hexDigit n) = some n := by
  have all : ∀ i < 16, hexValue? (hexDigit i) = some i := by decide
  exact all n h

theorem hexNumber_hexText (width n : Nat) :
    hexNumber (hexText width n) = n % Nat.pow 16 width := by
  induction width generalizing n with
  | zero => exact (Nat.mod_one n).symm
  | succ width ih =>
    have next : Nat.pow 16 (width + 1) = 16 * Nat.pow 16 width := Nat.mul_comm _ _
    rw [hexText, hexNumber_append_singleton, ih, hexValue?_hexDigit (Nat.mod_lt _ (by decide)),
      Option.getD_some, next, Nat.mod_mul]
    omega

end MapTheme.Text
