import MapTheme.Decimal.Nearest
import MapTheme.Settings.Loose
import MapTheme.Settings.Yaml.Node
import MapTheme.Text.Hex

/-! What the nodes of a document denote. A plain scalar is nothing, a switch, a number or
a text by its form, or as its tag wants it; every other scalar is a text. An alias stands
for the latest node of its name, which is of no use before that node has ended. -/
namespace MapTheme.Yaml

/-- A value. A number that is not whole is kept as written, and `unfit` is what does not
suit its tag or is not known yet. -/
inductive Value where
  | nothing
  | unfit
  | switch (value : Bool)
  | whole (value : Int)
  | number (text : List Char)
  | text (text : List Char)
  | list (items : List Value)
  | table (entries : List (Value × Value))

namespace Value

mutual
def same : Value → Value → Bool
  | .nothing, .nothing => true
  | .unfit, .unfit => true
  | .switch a, .switch b => a = b
  | .whole a, .whole b => a = b
  | .number a, .number b => a = b
  | .text a, .text b => a = b
  | .list as, .list bs => sameItems as bs
  | .table as, .table bs => sameEntries as bs
  | _, _ => false

def sameItems : List Value → List Value → Bool
  | [], [] => true
  | a :: as, b :: bs => same a b && sameItems as bs
  | _, _ => false

def sameEntries : List (Value × Value) → List (Value × Value) → Bool
  | [], [] => true
  | (k, a) :: as, (l, b) :: bs => same k l && same a b && sameEntries as bs
  | _, _ => false
end

def based? (base : Nat) (cs : List Char) : Option Int :=
  let (negative, ds) := Decimal.sign cs
  if ds = [] ∨ ds.any (fun c => ((Text.hexValue? c).filter (· < base)).isNone) then none
  else
    let n := ds.foldl (fun n c => base * n + (Text.hexValue? c).getD 0) 0
    if negative then if n ≤ 0x8000000000000000 then some (-(n : Int)) else none
    else if n < 0x8000000000000000 then some n else none

def whole? (cs : List Char) : Option Int := Decimal.readInt? 0x8000000000000000 cs

/-- The forms that only a scalar without a tag may have: in base 16 or 8, and with a
second sign. -/
def marked? : List Char → Option Int
  | '0' :: 'x' :: ds => based? 16 ds
  | '0' :: 'o' :: ds => based? 8 ds
  | '+' :: ds => whole? ds
  | _ => none

def switch? (word : String) : Option Bool :=
  if word ∈ ["true", "True", "TRUE"] then some true
  else if word ∈ ["false", "False", "FALSE"] then some false
  else none

def specialNumbers : List String :=
  [".inf", ".Inf", ".INF", "+.inf", "+.Inf", "+.INF", "-.inf", "-.Inf", "-.INF", ".nan", ".NaN",
   ".NAN"]

/-- A number has a digit or one of the special names. -/
def isNumber (cs : List Char) : Bool :=
  String.ofList cs ∈ specialNumbers || (cs.any Char.isDigit && (Decimal.read? cs).isSome)

def ofWord (cs : List Char) : Value :=
  let word := String.ofList cs
  match marked? cs, switch? word, whole? cs with
  | some i, _, _ => .whole i
  | none, some b, _ => .switch b
  | none, none, some i => .whole i
  | none, none, none =>
    if word ∈ ["", "~", "null"] then .nothing
    else if isNumber cs then .number cs
    else .text cs

/-- A plain scalar as a tag of YAML itself wants it. -/
def ofTagged (kind : String) (cs : List Char) : Value :=
  let word := String.ofList cs
  match kind with
  | "bool" => (switch? word).elim .unfit .switch
  | "int" => (whole? cs).elim .unfit .whole
  | "float" => if isNumber cs then .number cs else .unfit
  | "null" => if word ∈ ["~", "null"] then .nothing else .unfit
  | _ => .text cs

def ofScalar (tag : Option Tag) (plain : Bool) (cs : List Char) : Value :=
  match plain, tag with
  | false, _ => .text cs
  | true, none => ofWord cs
  | true, some tag =>
    if tag.handle = coreHandle then ofTagged (String.ofList tag.suffix) cs else .text cs

/-- The entries of keys and values in turn, each key of which is new. A key of no use is
passed over, and what follows it is a key in its place. -/
def entries? : List (Value × Value) → List Value → Option (List (Value × Value))
  | seen, .unfit :: rest => entries? seen rest
  | seen, key :: value :: rest =>
    if seen.any fun entry => entry.1.same key then none
    else entries? (seen ++ [(key, value)]) rest
  | seen, _ => some seen

end Value

/-- The nodes that have been named so far, the latest first. -/
abbrev Named := List (List Char × Value)

def Named.start (name : Option (List Char)) (named : Named) : Named :=
  name.toList.map (·, .unfit) ++ named

def Named.finish (name : Option (List Char)) (earlier : Nat) (value : Value) (named : Named) :
    Named :=
  match name with
  | none => named
  | some name => named.set (named.length - 1 - earlier) (name, value)

mutual
def Node.value? (named : Named) : Node → Option (Value × Named)
  | .alias name => (named.lookup name).map fun value => (value, named)
  | .scalar marks plain text =>
    let value := Value.ofScalar marks.tag plain text
    some (value, marks.anchor.toList.map (·, value) ++ named)
  | .list marks items => do
    let (items, known) ← valuesOf? (named.start marks.anchor) items
    let value := .list items
    some (value, Named.finish marks.anchor named.length value known)
  | .table marks nodes => do
    let (values, known) ← valuesOf? (named.start marks.anchor) nodes
    let value := .table (← Value.entries? [] values)
    some (value, Named.finish marks.anchor named.length value known)

def valuesOf? (named : Named) : List Node → Option (List Value × Named)
  | [] => some ([], named)
  | node :: nodes => do
    let (value, named) ← node.value? named
    let (values, named) ← valuesOf? named nodes
    some (value :: values, named)
end

namespace Value

def key? : Value → Option String
  | .text s => some (String.ofList s)
  | .number s => some (String.ofList s)
  | .whole i => some (toString i)
  | .switch b => some (if b then "true" else "false")
  | _ => none

mutual
/-- A value as settings have it. The special numbers are of no use there. -/
def loose? : Value → Option Loose
  | .nothing | .unfit => some .nothing
  | .switch b => some (.switch b)
  | .whole i => some (.whole i)
  | .number s => (Decimal.readFloat? s).map .number
  | .text s => some (.text (String.ofList s))
  | .list items => (looseItems? items).map .list
  | .table entries => (looseEntries? [] entries).map .table

def looseItems? : List Value → Option (List Loose)
  | [] => some []
  | item :: items => do
    let item ← item.loose?
    let items ← looseItems? items
    some (item :: items)

/-- The latest of several entries whose keys have one text counts. -/
def looseEntries? (seen : List (String × Loose)) :
    List (Value × Value) → Option (List (String × Loose))
  | [] => some seen
  | (key, value) :: entries => do
    let name ← key.key?
    let value ← value.loose?
    looseEntries? (Loose.put name value seen) entries
end

end Value
end MapTheme.Yaml
