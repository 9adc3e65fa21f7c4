import MapTheme.Json.Value
import MapTheme.Ordered

/-! Reading JSON text in two steps. `Raw.ofTokens?` settles how values are nested
and leaves numbers and strings as written; `Raw.value?` then decides what they
denote. A number is a whole number where 64 bits hold it, with or without a sign.
Any other is a double computed from its first digits below `2 ^ 64` by one
multiplication or division with a power of ten, so it need not be the nearest one;
one that is too large is refused. -/
namespace MapTheme.Json

/-- A value whose numbers and strings are kept as written. -/
inductive Raw where
  | null
  | bool (value : Bool)
  | number (text : NumberText)
  | string (raw : List Char)
  | array (items : List Raw)
  | object (members : List (List Char × Raw))

inductive Frame where
  | array (items : List Raw)
  | object (members : List (List Char × Raw)) (key : List Char)

inductive Expect where
  | value
  | valueOrClose
  | key (members : List (List Char × Raw))
  | keyOrClose
  | colon (members : List (List Char × Raw)) (key : List Char)
  | more
  | nothing (done : Raw)

def place (value : Raw) : List Frame → Expect × List Frame
  | [] => (.nothing value, [])
  | .array items :: frames => (.more, .array (value :: items) :: frames)
  | .object members key :: frames => (.more, .object ((key, value) :: members) key :: frames)

def scalar? : Token → Option Raw
  | .null => some .null
  | .bool value => some (.bool value)
  | .number text => some (.number text)
  | .string raw => some (.string raw)
  | _ => none

def step (frames : List Frame) : Expect → Token → Option (Expect × List Frame)
  | .value, .openArray => some (.valueOrClose, .array [] :: frames)
  | .value, .openObject => some (.keyOrClose, frames)
  | .value, token => (scalar? token).map fun value => place value frames
  | .valueOrClose, .closeArray =>
    match frames with
    | .array items :: frames => some (place (.array items.reverse) frames)
    | _ => none
  | .valueOrClose, .openArray => some (.valueOrClose, .array [] :: frames)
  | .valueOrClose, .openObject => some (.keyOrClose, frames)
  | .valueOrClose, token => (scalar? token).map fun value => place value frames
  | .keyOrClose, .closeObject => some (place (.object []) frames)
  | .keyOrClose, .string key => some (.colon [] key, frames)
  | .key members, .string key => some (.colon members key, frames)
  | .colon members key, .colon => some (.value, .object members key :: frames)
  | .more, .comma =>
    match frames with
    | .array _ :: _ => some (.value, frames)
    | .object members _ :: frames => some (.key members, frames)
    | [] => none
  | .more, .closeArray =>
    match frames with
    | .array items :: frames => some (place (.array items.reverse) frames)
    | _ => none
  | .more, .closeObject =>
    match frames with
    | .object members _ :: frames => some (place (.object members.reverse) frames)
    | _ => none
  | _, _ => none

def build : List Frame → Expect → List Token → Option Raw
  | [], .nothing value, [] => some value
  | _, _, [] => none
  | frames, expect, token :: rest =>
    match step frames expect token with
    | some (expect, frames) => build frames expect rest
    | none => none

def Raw.ofTokens? (ts : List Token) : Option Raw := build [] .value ts

/-- The characters that the inside of a quoted string denotes. An escaped high
surrogate must be followed by an escaped low one. -/
def unescape : List Char → Option (List Char)
  | '\\' :: 'u' :: a :: b :: c :: d :: rest =>
    let unit := Text.hexNumber [a, b, c, d]
    if 0xD800 ≤ unit ∧ unit < 0xDC00 then
      match rest with
      | '\\' :: 'u' :: e :: f :: g :: h :: rest =>
        let low := Text.hexNumber [e, f, g, h]
        if 0xDC00 ≤ low ∧ low < 0xE000 then
          (unescape rest).map
            (Char.ofNat (0x10000 + (unit - 0xD800) * 0x400 + (low - 0xDC00)) :: ·)
        else none
      | _ => none
    else if 0xDC00 ≤ unit ∧ unit < 0xE000 then none
    else (unescape rest).map (Char.ofNat unit :: ·)
  | '\\' :: c :: rest =>
    match simpleEscapes.lookup c with
    | some char => (unescape rest).map (char :: ·)
    | none => none
  | c :: rest => (unescape rest).map (c :: ·)
  | [] => some []

def stringValue? (raw : List Char) : Option String := (unescape raw).map String.ofList

/-- Whether a number fits into 64 bits without a sign. -/
def fits (n : Nat) : Bool := n < 0x10000000000000000

/-- Appends digits to a significand as long as it fits; returns how many did. -/
def takeDigits (significand : Nat) : List Char → Nat × Nat
  | [] => (significand, 0)
  | d :: ds =>
    let next := 10 * significand + Decimal.digit d
    if fits next then
      let (significand, count) := takeDigits next ds
      (significand, count + 1)
    else (significand, 0)

def exponentBound : Nat := 0x80000000

/-- Scales by a power of ten: dividing by `10 ^ 308` while the exponent lies below
`-308`, then once by what is left of it. -/
def scaleDown (x : Float) (exponent : Nat) : Nat → Float
  | 0 => x
  | fuel + 1 =>
    if exponent ≤ 308 then x / Decimal.Literal.toFloat (.finite false 1 exponent)
    else if x == 0 then x
    else scaleDown (x / Decimal.Literal.toFloat (.finite false 1 308)) (exponent - 308) fuel

def scaled? (significand : Nat) (exponent : Int) : Option Float :=
  let x := Decimal.Literal.toFloat (.finite false significand 0)
  if 0 ≤ exponent then
    if 308 < exponent then (if x == 0 then some x else none)
    else
      let y := x * Decimal.Literal.toFloat (.finite false 1 exponent)
      if y.isInf then none else some y
  else some (scaleDown x exponent.natAbs 4)

/-- The double that a number with a point, an exponent or too many digits denotes. -/
def NumberText.float? (n : NumberText) : Option Float := do
  let (significand, kept) := takeDigits 0 n.whole
  let dropped : Int := n.whole.length - kept
  let (significand, places) := takeDigits significand n.fraction
  let shift : Int := dropped - places
  let magnitude ← match n.exponent with
    | none => scaled? significand shift
    | some (negative, ds) =>
      let e := Decimal.digitsValue ds
      if exponentBound ≤ e then
        if significand ≠ 0 ∧ ¬ negative then none else some 0
      else scaled? significand (if negative then shift - e else shift + e)
  some (if n.negative then -magnitude else magnitude)

def NumberText.value? (n : NumberText) : Option Json :=
  let whole := Decimal.digitsValue n.whole
  if n.fraction = [] ∧ n.exponent = none ∧ fits whole ∧
      (n.negative = false ∨ (0 < whole ∧ whole ≤ 0x8000000000000000)) then
    some (.int (if n.negative then -whole else whole))
  else n.float?.map .float

mutual
/-- What a raw value denotes, if it is nested at most `depth` deep. -/
def Raw.value? (depth : Nat) : Raw → Option Json
  | .null => some .null
  | .bool value => some (.bool value)
  | .number text => text.value?
  | .string raw => (stringValue? raw).map .string
  | .array items => if depth = 0 then none else (valuesOf? (depth - 1) items).map .array
  | .object members =>
    if depth = 0 then none
    else (membersOf? (depth - 1) members).map fun members => .object (Ordered.ofEntries members)

def valuesOf? (depth : Nat) : List Raw → Option (List Json)
  | [] => some []
  | item :: items => do
    let value ← item.value? depth
    let values ← valuesOf? depth items
    some (value :: values)

def membersOf? (depth : Nat) : List (List Char × Raw) → Option (List (String × Json))
  | [] => some []
  | (key, item) :: members => do
    let key ← stringValue? key
    let value ← item.value? depth
    let rest ← membersOf? depth members
    some ((key, value) :: rest)
end

def maxDepth : Nat := 127

def readRaw? (cs : List Char) : Option Raw := (tokens cs).bind Raw.ofTokens?

def read? (cs : List Char) : Option Json := (readRaw? cs).bind (Raw.value? maxDepth)

def member? (key : String) : Json → Option Json
  | .object members => members.lookup key
  | _ => none

end MapTheme.Json
