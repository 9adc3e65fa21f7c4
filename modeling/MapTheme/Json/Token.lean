import MapTheme.Decimal.Literal
import MapTheme.Text.Hex

/-! Tokens of JSON text. A token keeps what was written: a number its digits, a
string the characters between its quotes with escapes still in place. So a reader
can pass over a value without asking whether its numbers fit or its escapes denote
characters. -/
namespace MapTheme.Json

structure NumberText where
  negative : Bool
  whole : List Char
  fraction : List Char
  exponent : Option (Bool × List Char)
deriving Repr, DecidableEq

inductive Token where
  | openArray
  | closeArray
  | openObject
  | closeObject
  | comma
  | colon
  | null
  | bool (value : Bool)
  | number (text : NumberText)
  | string (raw : List Char)
deriving Repr, DecidableEq

def isSpace (c : Char) : Bool := c = ' ' || c = '\t' || c = '\n' || c = '\r'

def simpleEscapes : List (Char × Char) :=
  [('"', '"'), ('\\', '\\'), ('/', '/'), ('b', '\x08'), ('f', '\x0c'), ('n', '\n'), ('r', '\r'),
   ('t', '\t')]

/-- The characters up to the closing quote, and what follows it. Control characters
must be escaped, and an escape must be of a known form. -/
def scanString : List Char → Option (List Char × List Char)
  | '"' :: rest => some ([], rest)
  | '\\' :: 'u' :: a :: b :: c :: d :: rest =>
    if [a, b, c, d].all Text.isHex then
      (scanString rest).map fun (raw, tail) => ('\\' :: 'u' :: a :: b :: c :: d :: raw, tail)
    else none
  | '\\' :: c :: rest =>
    if (simpleEscapes.lookup c).isSome then
      (scanString rest).map fun (raw, tail) => ('\\' :: c :: raw, tail)
    else none
  | c :: rest =>
    if c = '\\' || c.toNat < 0x20 then none
    else (scanString rest).map fun (raw, tail) => (c :: raw, tail)
  | [] => none

/-- A fraction that has been begun has at least one digit. -/
def scanFraction : List Char → Option (List Char × List Char)
  | '.' :: rest =>
    let ds := rest.takeWhile Char.isDigit
    if ds = [] then none else some (ds, rest.dropWhile Char.isDigit)
  | rest => some ([], rest)

def scanExponent : List Char → Option (Option (Bool × List Char) × List Char)
  | [] => some (none, [])
  | c :: rest =>
    if c = 'e' ∨ c = 'E' then
      let (negative, rest) := Decimal.sign rest
      let ds := rest.takeWhile Char.isDigit
      if ds = [] then none else some (some (negative, ds), rest.dropWhile Char.isDigit)
    else some (none, c :: rest)

/-- The digits before the point do not start with a zero, unless it is alone. -/
def scanNumber (cs : List Char) : Option (NumberText × List Char) := do
  let (negative, cs) := match cs with
    | '-' :: rest => (true, rest)
    | _ => (false, cs)
  let whole := cs.takeWhile Char.isDigit
  if whole = [] ∨ (whole.head? = some '0' ∧ whole.length ≠ 1) then none
  else
    let (fraction, rest) ← scanFraction (cs.dropWhile Char.isDigit)
    let (exponent, rest) ← scanExponent rest
    some (⟨negative, whole, fraction, exponent⟩, rest)

def scanToken : List Char → Option (Token × List Char)
  | '[' :: rest => some (.openArray, rest)
  | ']' :: rest => some (.closeArray, rest)
  | '{' :: rest => some (.openObject, rest)
  | '}' :: rest => some (.closeObject, rest)
  | ',' :: rest => some (.comma, rest)
  | ':' :: rest => some (.colon, rest)
  | '"' :: rest => (scanString rest).map fun (raw, tail) => (.string raw, tail)
  | 'n' :: 'u' :: 'l' :: 'l' :: rest => some (.null, rest)
  | 't' :: 'r' :: 'u' :: 'e' :: rest => some (.bool true, rest)
  | 'f' :: 'a' :: 'l' :: 's' :: 'e' :: rest => some (.bool false, rest)
  | cs => (scanNumber cs).map fun (text, rest) => (.number text, rest)

/-- The tokens of a text; `none` if some part of it is none. A token that did not
shorten the text could not be followed by another. -/
def tokens (cs : List Char) : Option (List Token) :=
  match cs.dropWhile isSpace with
  | [] => some []
  | c :: rest =>
    match scanToken (c :: rest) with
    | none => none
    | some (token, tail) =>
      if _shorter : tail.length < cs.length then (tokens tail).map (token :: ·) else none
termination_by cs.length

end MapTheme.Json
