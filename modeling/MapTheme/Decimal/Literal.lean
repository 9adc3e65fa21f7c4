/-! Literals of numbers in text: a sign, then digits with or without a decimal
point and a decimal exponent, or a name of infinity or of the value that is no
number. `scan` reads the longest literal that a text starts with; `read?` wants the
whole text. Whole numbers within bounds have readers of their own. -/
namespace MapTheme.Decimal

/-- What a literal denotes: `digits · 10 ^ exponent` with a sign, or one of the two
values outside the numbers. -/
inductive Literal where
  | finite (negative : Bool) (digits : Nat) (exponent : Int)
  | infinite (negative : Bool)
  | nan
deriving Repr, DecidableEq

def digit (c : Char) : Nat := c.toNat - '0'.toNat

def digitsValue (ds : List Char) : Nat := ds.foldl (fun n d => 10 * n + digit d) 0

/-- An optional sign; `true` is minus. -/
def sign : List Char → Bool × List Char
  | '-' :: cs => (true, cs)
  | '+' :: cs => (false, cs)
  | cs => (false, cs)

/-- What follows `word` in a text that starts with it, in letters of either case. -/
def afterWord : List Char → List Char → Option (List Char)
  | [], cs => some cs
  | w :: ws, c :: cs => if c.toLower = w then afterWord ws cs else none
  | _ :: _, [] => none

/-- An exponent that has been begun has at least one digit. -/
def scanExponent : List Char → Option (Int × List Char)
  | [] => some (0, [])
  | c :: cs =>
    if c = 'e' ∨ c = 'E' then
      let (negative, rest) := sign cs
      let ds := rest.takeWhile Char.isDigit
      if ds = [] then none
      else
        let n : Int := digitsValue ds
        some (if negative then -n else n, rest.dropWhile Char.isDigit)
    else some (0, c :: cs)

/-- Digits, one of the two sides of the point at least, and an exponent. -/
def scanFinite (negative : Bool) (cs : List Char) : Option (Literal × List Char) :=
  let whole := cs.takeWhile Char.isDigit
  let (fraction, rest) := match cs.dropWhile Char.isDigit with
    | '.' :: tail => (tail.takeWhile Char.isDigit, tail.dropWhile Char.isDigit)
    | tail => ([], tail)
  if whole = [] ∧ fraction = [] then none
  else (scanExponent rest).map fun (exponent, rest) =>
    (.finite negative (digitsValue (whole ++ fraction)) (exponent - fraction.length), rest)

/-- The longest literal at the start of a text, and what follows it. -/
def scan (cs : List Char) : Option (Literal × List Char) :=
  let (negative, rest) := sign cs
  match afterWord ['i', 'n', 'f', 'i', 'n', 'i', 't', 'y'] rest, afterWord ['i', 'n', 'f'] rest,
      afterWord ['n', 'a', 'n'] rest with
  | some tail, _, _ => some (.infinite negative, tail)
  | none, some tail, _ => some (.infinite negative, tail)
  | none, none, some tail => some (.nan, tail)
  | none, none, none => scanFinite negative rest

def read? (cs : List Char) : Option Literal :=
  match scan cs with
  | some (literal, []) => some literal
  | _ => none

def readDigits? (cs : List Char) : Option Nat :=
  if cs ≠ [] ∧ cs.all Char.isDigit then some (digitsValue cs) else none

/-- A whole number below `bound`, with an optional plus sign. -/
def readNat? (bound : Nat) (cs : List Char) : Option Nat :=
  let digits := match cs with
    | '+' :: rest => rest
    | _ => cs
  (readDigits? digits).filter (· < bound)

/-- A whole number from `-bound` up to and not including `bound`, with an optional
sign. -/
def readInt? (bound : Nat) (cs : List Char) : Option Int :=
  let (negative, rest) := sign cs
  (readDigits? rest).bind fun n =>
    if negative then if n ≤ bound then some (-n) else none
    else if n < bound then some n else none

end MapTheme.Decimal
