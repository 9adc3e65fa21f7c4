import MapTheme.Json.Token
import MapTheme.Decimal.Layout

/-! JSON values, and their compact text. Objects keep their members in the order in
which they are written. -/
namespace MapTheme

inductive Json where
  | null
  | bool (value : Bool)
  | int (value : Int)
  | float (value : Float)
  | string (value : String)
  | array (items : List Json)
  | object (members : List (String × Json))

namespace Json

/-- Control characters with an escape of their own, and the two characters that end
or escape a string. -/
def shortEscapes : List (Char × Char) :=
  [('"', '"'), ('\\', '\\'), ('\n', 'n'), ('\r', 'r'), ('\t', 't'), ('\x08', 'b'), ('\x0c', 'f')]

def escape (c : Char) : List Char :=
  match shortEscapes.lookup c with
  | some e => ['\\', e]
  | none => if c.toNat < 0x20 then '\\' :: 'u' :: Text.hexText 4 c.toNat else [c]

def quote (text : String) : String :=
  String.ofList ('"' :: text.toList.flatMap escape ++ ['"'])

def commas : List String → String := String.intercalate ","

mutual
def text : Json → String
  | .null => "null"
  | .bool value => if value then "true" else "false"
  | .int value => toString value
  | .float value => (Decimal.reportLayout.text? value).getD "null"
  | .string value => quote value
  | .array items => "[" ++ commas (texts items) ++ "]"
  | .object members => "\x7b" ++ commas (memberTexts members) ++ "\x7d"

def texts : List Json → List String
  | [] => []
  | item :: items => item.text :: texts items

def memberTexts : List (String × Json) → List String
  | [] => []
  | (key, value) :: members => (quote key ++ ":" ++ value.text) :: memberTexts members
end

end Json
end MapTheme
