import MapTheme.Decimal.Nearest
import MapTheme.Text.Blank

/-! Numbers, lists of lengths, zoom levels and switches in attribute values. White
space around a value does not count; in a list, spaces and tabs around each length
do not count either. -/
namespace MapTheme.Value

def number? (text : String) : Option Float :=
  (Decimal.readFloat? (Text.trim text.toList)).filter Float.isFinite

/-- A whole number of 32 bits with a sign. -/
def whole? (text : String) : Option Int := Decimal.readInt? 0x80000000 (Text.trim text.toList)

/-- A zoom level, lowered to `max` where it is higher. Numbers that 32 bits do not
hold are no levels. -/
def zoom? (max : Nat) (text : String) : Option Nat :=
  (Decimal.readNat? 0x100000000 (Text.trim text.toList)).map (min · max)

def switch? (text : String) : Option Bool :=
  match String.ofList (Text.trim text.toList) with
  | "true" | "yes" | "1" => some true
  | "false" | "no" | "0" => some false
  | _ => none

def isGap (c : Char) : Bool := c = ' ' || c = '\t'

/-- Reads literals separated by commas, each with gaps around it, to the end. -/
def literals? (cs : List Char) : Option (List Decimal.Literal) :=
  match Decimal.scan (cs.dropWhile isGap) with
  | none => none
  | some (literal, rest) =>
    match rest.dropWhile isGap with
    | [] => some [literal]
    | ',' :: tail =>
      if _shorter : tail.length < cs.length then (literals? tail).map (literal :: ·) else none
    | _ => none
termination_by cs.length

def isLength (x : Float) : Bool := x.isFinite && 0 < x

/-- One or more lengths, all of them positive and finite. -/
def lengths? (text : String) : Option (List Float) :=
  ((literals? (Text.trim text.toList)).map (·.map Decimal.Literal.toFloat)).filter
    (·.all isLength)

end MapTheme.Value
