import MapTheme.Decimal.Nearest
import MapTheme.Settings.Loose
import MapTheme.Text.Hex
import MapTheme.Text.Split

/-! The keys and scalars of TOML: strings in four kinds of quotes, whole numbers in
four bases, floats, switches, and dates and times, which count as text. -/
namespace MapTheme.Toml

/-- Reads what a text starts with, and returns what is left. -/
abbrev Reader (α : Type) := List Char → Option (α × List Char)

def isGap (c : Char) : Bool := c = ' ' || c = '\t'

def skipGaps (cs : List Char) : List Char := cs.dropWhile isGap

def isControl (c : Char) : Bool := (c.toNat < 0x20 && c ≠ '\t') || c.toNat = 0x7F

def afterLineEnd? : List Char → Option (List Char)
  | '\n' :: rest => some rest
  | '\r' :: '\n' :: rest => some rest
  | _ => none

def isKeyChar (c : Char) : Bool := c.isAlphanum || c = '_' || c = '-'

/-! Strings. -/

def namedEscapes : List (Char × Char) :=
  [('b', '\x08'), ('t', '\t'), ('n', '\n'), ('f', '\x0c'), ('r', '\r'), ('e', '\x1b'), ('"', '"'),
   ('\\', '\\')]

def escapeWidth? : Char → Option Nat
  | 'x' => some 2
  | 'u' => some 4
  | 'U' => some 8
  | _ => none

def escaped? : Reader Char
  | [] => none
  | c :: rest =>
    match namedEscapes.lookup c, escapeWidth? c with
    | some char, _ => some (char, rest)
    | none, some width =>
      let ds := rest.take width
      let n := Text.hexNumber ds
      if ds.length = width && ds.all Text.isHex && n.isValidChar then
        some (Char.ofNat n, rest.drop width)
      else none
    | none, none => none

def shortString (quote : Char) : Nat → List Char → Reader String
  | 0, _, _ => none
  | fuel + 1, seen, cs =>
    match cs with
    | [] => none
    | c :: rest =>
      if c = quote then some (String.ofList seen.reverse, rest)
      else if c = '\\' && quote = '"' then do
        let (char, rest) ← escaped? rest
        shortString quote fuel (char :: seen) rest
      else if isControl c then none
      else shortString quote fuel (c :: seen) rest

def afterBlank : List Char → List Char
  | [] => []
  | '\r' :: '\n' :: rest => afterBlank rest
  | c :: rest => if isGap c || c = '\n' then afterBlank rest else c :: rest

/-- A backslash at the end of a line takes away all white space up to the next
character. -/
def afterContinuation? (cs : List Char) : Option (List Char) :=
  (afterLineEnd? (skipGaps cs)).map afterBlank

/-- The rest of a string that may span lines, whose ends it keeps as they are written.
It ends at three quotes in a row, or as many as five, of which the first ones are its
own. -/
def longString (quote : Char) : Nat → List Char → Reader String
  | 0, _, _ => none
  | fuel + 1, seen, cs =>
    match cs with
    | [] => none
    | c :: rest =>
      if c = quote then
        let quotes := cs.takeWhile (· = quote)
        if quotes.length < 3 then longString quote fuel (quotes ++ seen) (cs.drop quotes.length)
        else
          let taken := min quotes.length 5
          some (String.ofList ((quotes.take (taken - 3) ++ seen).reverse), cs.drop taken)
      else if c = '\\' && quote = '"' then
        match afterContinuation? rest with
        | some rest => longString quote fuel seen rest
        | none => do
          let (char, rest) ← escaped? rest
          longString quote fuel (char :: seen) rest
      else match c, rest with
        | '\n', rest => longString quote fuel ('\n' :: seen) rest
        | '\r', '\n' :: rest => longString quote fuel ('\n' :: '\r' :: seen) rest
        | c, rest => if isControl c then none else longString quote fuel (c :: seen) rest

/-- A line end right after the quotes that open a long string is no part of it. -/
def string? (quote : Char) : Reader String
  | a :: b :: c :: rest =>
    if a = quote && b = quote && c = quote then
      longString quote (rest.length + 1) [] ((afterLineEnd? rest).getD rest)
    else if a = quote then shortString quote (rest.length + 3) [] (b :: c :: rest)
    else none
  | a :: rest => if a = quote then shortString quote (rest.length + 1) [] rest else none
  | [] => none

/-! Keys. -/

def shortQuoted (quote : Char) (cs : List Char) : Option (String × List Char) :=
  shortString quote (cs.length + 1) [] cs

def simpleKey : Reader String
  | '"' :: rest => shortQuoted '"' rest
  | '\'' :: rest => shortQuoted '\'' rest
  | cs =>
    let name := cs.takeWhile isKeyChar
    if name = [] then none else some (String.ofList name, cs.dropWhile isKeyChar)

def dottedKey : Nat → Reader (List String)
  | 0, _ => none
  | fuel + 1, cs => do
    let (name, rest) ← simpleKey cs
    match skipGaps rest with
    | '.' :: rest => do
      let (names, rest) ← dottedKey fuel (skipGaps rest)
      some (name :: names, rest)
    | rest => some ([name], rest)

/-- How many parts a key may have, and how deep values may be nested. -/
def maxDepth : Nat := 80

def key? (cs : List Char) : Option (List String × List Char) :=
  (dottedKey (cs.length + 1) cs).filter (·.1.length ≤ maxDepth)

/-! Numbers. -/

def digits? (isDigit : Char → Bool) (cs : List Char) : Option (List Char) :=
  let groups := Text.split '_' cs
  if groups.all fun group => group ≠ [] && group.all isDigit then some groups.flatten else none

/-- Whole numbers fit into 64 bits with a sign. -/
def bounded? (n : Int) : Option Int :=
  if -0x8000000000000000 ≤ n ∧ n < 0x8000000000000000 then some n else none

def based? (base : Nat) (cs : List Char) : Option Int := do
  let ds ← digits? (fun c => ((Text.hexValue? c).filter (· < base)).isSome) cs
  bounded? (ds.foldl (fun n c => base * n + (Text.hexValue? c).getD 0) 0)

/-- The digits of a decimal number, which has no leading zeros. -/
def decimal? (cs : List Char) : Option (List Char) :=
  (digits? Char.isDigit cs).filter fun ds => ds.length = 1 || ds.head? ≠ some '0'

def integer? : List Char → Option Int
  | '0' :: 'x' :: ds => based? 16 ds
  | '0' :: 'o' :: ds => based? 8 ds
  | '0' :: 'b' :: ds => based? 2 ds
  | cs =>
    let (negative, ds) := Decimal.sign cs
    (decimal? ds).bind fun ds =>
      let n : Int := Decimal.digitsValue ds
      bounded? (if negative then -n else n)

/-- What follows a mark, if anything does; the mark itself starts it. -/
def exponent? : List Char → Option (List Char)
  | [] => some []
  | mark :: cs =>
    let (negative, ds) := Decimal.sign cs
    (digits? Char.isDigit ds).map fun ds => mark :: (if negative then ['-'] else []) ++ ds

def fraction? : List Char → Option (List Char)
  | [] => some []
  | point :: ds => (digits? Char.isDigit ds).map (point :: ·)

def isExponentMark (c : Char) : Bool := c = 'e' || c = 'E'

def float? (cs : List Char) : Option Float := do
  let (negative, magnitude) := Decimal.sign cs
  let signed (x : Float) : Float := if negative then -x else x
  if magnitude = ['i', 'n', 'f'] then some (signed (1.0 / 0.0))
  else if magnitude = ['n', 'a', 'n'] then some (signed (0.0 / 0.0))
  else
    let power := magnitude.dropWhile (!isExponentMark ·)
    let places := (magnitude.takeWhile (!isExponentMark ·)).dropWhile (· ≠ '.')
    let whole ← decimal? (magnitude.takeWhile fun c => !isExponentMark c && c ≠ '.')
    let places ← fraction? places
    let power ← exponent? power
    let x ← Decimal.readFloat? (whole ++ places ++ power)
    if x.isInf || (places = [] && power = []) then none else some (signed x)

/-! Dates and times. -/

/-- Whether a text consists of numbers of these widths and ranges, each followed by
the mark that comes with it. -/
def hasFields : List (Nat × Nat × Nat × List Char) → List Char → Bool
  | [], cs => cs = []
  | (width, least, greatest, mark) :: fields, cs =>
    let ds := cs.take width
    let n := Decimal.digitsValue ds
    ds.length = width && ds.all Char.isDigit && least ≤ n && n ≤ greatest &&
      mark.isPrefixOf (cs.drop width) && hasFields fields ((cs.drop width).drop mark.length)

def monthDays (year month : Nat) : Nat :=
  if month = 2 then
    if year % 4 = 0 && (year % 100 ≠ 0 || year % 400 = 0) then 29 else 28
  else if month ∈ [4, 6, 9, 11] then 30
  else 31

def isDate (cs : List Char) : Bool :=
  hasFields [(4, 0, 9999, ['-']), (2, 1, 12, ['-']), (2, 1, 31, [])] cs &&
    decide (Decimal.digitsValue (cs.drop 8) ≤
      monthDays (Decimal.digitsValue (cs.take 4)) (Decimal.digitsValue ((cs.drop 5).take 2)))

/-- The digits of a fraction of a second: nine at most count, and zeros at the end do
not, but the first one. -/
def fractionDigits (ds : List Char) : List Char :=
  match ((ds.take 9).reverse.dropWhile (· = '0')).reverse with
  | [] => ['0']
  | kept => kept

def time? (cs : List Char) : Option (List Char) :=
  let clock := cs.takeWhile (· ≠ '.')
  let hourAndMinute := [(2, 0, 23, [':']), (2, 0, 59, [])]
  let withSecond := [(2, 0, 23, [':']), (2, 0, 59, [':']), (2, 0, 60, [])]
  match cs.dropWhile (· ≠ '.') with
  | [] => if hasFields withSecond cs || hasFields hourAndMinute cs then some cs else none
  | _ :: ds =>
    if hasFields withSecond clock && ds ≠ [] && ds.all Char.isDigit then
      some (clock ++ '.' :: fractionDigits ds)
    else none

/-- An offset from universal time, if there is one. The offset of zero is positive. -/
def offset? : List Char → Option (List Char)
  | [] => some []
  | ['Z'] => some ['Z']
  | ['-', '0', '0', ':', '0', '0'] => some ['+', '0', '0', ':', '0', '0']
  | sign :: cs =>
    if (sign = '+' || sign = '-') && hasFields [(2, 0, 23, [':']), (2, 0, 59, [])] cs then
      some (sign :: cs)
    else none

def moment? (cs : List Char) : Option (List Char) :=
  let cs := cs.map fun c => if c = ' ' || c = 't' then 'T' else if c = 'z' then 'Z' else c
  if isDate cs then some cs
  else if isDate (cs.take 10) && (cs.drop 10).head? = some 'T' then do
    let ofTime (c : Char) : Bool := c.isDigit || c = ':' || c = '.'
    let clock := (cs.drop 11).takeWhile ofTime
    let time ← time? clock
    let offset ← offset? (cs.drop (11 + clock.length))
    some (cs.take 11 ++ time ++ offset)
  else time? cs

/-- The longest text that could be a scalar without quotes. A blank may stand between
a date and a time. -/
def bareText (cs : List Char) : List Char × List Char :=
  let ofBare (c : Char) : Bool := c.isAlphanum || c ∈ ['_', '-', '+', '.', ':']
  let bare := cs.takeWhile ofBare
  match cs.dropWhile ofBare with
  | ' ' :: c :: rest =>
    if isDate bare && c.isDigit then
      (bare ++ ' ' :: (c :: rest).takeWhile ofBare, (c :: rest).dropWhile ofBare)
    else (bare, ' ' :: c :: rest)
  | rest => (bare, rest)

def bareValue? (cs : List Char) : Option Loose :=
  if cs = ['t', 'r', 'u', 'e'] then some (.switch true)
  else if cs = ['f', 'a', 'l', 's', 'e'] then some (.switch false)
  else match integer? cs, float? cs with
    | some i, _ => some (.whole i)
    | none, some x => some (.number x)
    | none, none => (moment? cs).map fun moment => .text (String.ofList moment)

def scalar? : Reader Loose
  | '"' :: rest => (string? '"' ('"' :: rest)).map fun (s, rest) => (.text s, rest)
  | '\'' :: rest => (string? '\'' ('\'' :: rest)).map fun (s, rest) => (.text s, rest)
  | cs =>
    let (bare, rest) := bareText cs
    (bareValue? bare).map fun value => (value, rest)

end MapTheme.Toml
