import MapTheme.Geometry
import MapTheme.Json.Reader
import MapTheme.Keys
import MapTheme.Ordered
import MapTheme.Text.Blank
import MapTheme.Text.Lines

/-! Features and the lines of JSON that describe them. A description is an object of
which only the known members count, or the list of their values; what an unknown
member holds is passed over unread. The first line that cannot be used ends the
reading. -/
namespace MapTheme

/-- A feature as described; its tags are in the order of their keys. -/
structure Descriptor where
  id : Option Json := none
  kind : Kind
  closed : Bool := false
  tags : List (String × String) := []

structure Feature where
  id : Option Json := none
  kind : Kind
  closed : Bool := false
  tags : List Tag := []

namespace Descriptor

def idDepth : Nat := Json.maxDepth - 1

/-- An id that is null is none. -/
def id? : Json.Raw → Option (Option Json)
  | .null => some none
  | raw => (raw.value? idDepth).map some

def kindNamed? (raw : List Char) : Option Kind :=
  match Json.stringValue? raw with
  | some "node" => some .node
  | some "way" => some .way
  | _ => none

/-- A kind is named, or is the name of the only member of an object, with null. -/
def kind? : Json.Raw → Option Kind
  | .string raw => kindNamed? raw
  | .object [(key, .null)] => kindNamed? key
  | _ => none

def closed? : Json.Raw → Option Bool
  | .bool value => some value
  | _ => none

def tag? : List Char × Json.Raw → Option (String × String)
  | (key, .string value) => do some (← Json.stringValue? key, ← Json.stringValue? value)
  | _ => none

def tags? : Json.Raw → Option (List (String × String))
  | .object members => (members.mapM tag?).map Ordered.ofEntries
  | _ => none

def membersNamed (name : String) (members : List (String × Json.Raw)) : List Json.Raw :=
  (members.filter (·.1 = name)).map (·.2)

/-- The one value given, read, or the default if none is given. -/
def atMostOne {α : Type} (read : Json.Raw → Option α) (default : Option α) :
    List Json.Raw → Option α
  | [] => default
  | [raw] => read raw
  | _ => none

def ofParts (id kind closed tags : List Json.Raw) : Option Descriptor := do
  let id ← atMostOne id? (some none) id
  let kind ← atMostOne kind? none kind
  let closed ← atMostOne closed? (some false) closed
  let tags ← atMostOne tags? (some []) tags
  some { id, kind, closed, tags }

def ofRaw? : Json.Raw → Option Descriptor
  | .object members => do
    let members ← members.mapM fun (key, raw) => do some (← Json.stringValue? key, raw)
    ofParts (membersNamed "id" members) (membersNamed "type" members)
      (membersNamed "closed" members) (membersNamed "tags" members)
  | .array [id, kind] => ofParts [id] [kind] [] []
  | .array [id, kind, closed] => ofParts [id] [kind] [closed] []
  | .array [id, kind, closed, tags] => ofParts [id] [kind] [closed] [tags]
  | _ => none

def ofText? (text : String) : Option Descriptor := (Json.readRaw? text.toList).bind ofRaw?

end Descriptor

inductive FeatureError where
  | undecodable
  | invalid (line : Nat)
deriving Repr, DecidableEq

/-- Descriptions on lines of which the first one has a number. Blank lines count, but
describe nothing. -/
def readDescribed {α : Type} (describe? : String → Option α) (number : Nat) :
    List (List UInt8) → Except FeatureError (List α)
  | [] => .ok []
  | line :: lines =>
    match Text.decode? line with
    | none => .error .undecodable
    | some text =>
      if Text.trim text.toList = [] then readDescribed describe? (number + 1) lines
      else match describe? text with
        | none => .error (.invalid number)
        | some own => (readDescribed describe? (number + 1) lines).map (own :: ·)

def readFeatures {α : Type} (describe? : String → Option α) (bytes : List UInt8) :
    Except FeatureError (List α) :=
  readDescribed describe? 1 (Text.lines bytes)

def internFeatures (table : KeyTable) : List Descriptor → KeyTable × List Feature
  | [] => (table, [])
  | d :: ds =>
    let (table, tags) := table.tags d.tags
    let (table, features) := internFeatures table ds
    (table, ⟨d.id, d.kind, d.closed, tags⟩ :: features)

end MapTheme
