import MapTheme.Decimal.Layout
import MapTheme.Settings

/-! The values of a settings file, whatever its format, and their lenient conversion
into settings: switches, numbers and texts stand in for each other where that makes
sense. A group of settings is a table, or the list of its values. -/
namespace MapTheme

inductive Loose where
  | nothing
  | switch (value : Bool)
  | whole (value : Int)
  | number (value : Float)
  | text (value : String)
  | list (items : List Loose)
  | table (entries : List (String × Loose))

namespace Loose

def wordSwitch? (word : String) : Option Bool :=
  match word.toLower with
  | "true" | "on" | "yes" => some true
  | "false" | "off" | "no" => some false
  | _ => none

def float? : Loose → Option Float
  | .number x => some x
  | .whole i => some (Float.ofInt i)
  | .switch b => some (if b then 1.0 else 0.0)
  | .text s =>
    match wordSwitch? s with
    | some b => some (if b then 1.0 else 0.0)
    | none => Decimal.readFloat? s.toList
  | _ => none

/-- A number that is not whole is rounded, a half away from zero, and one below zero
counts as zero. -/
def nat? : Loose → Option Nat
  | .number x => some x.round.toUInt64.toNat
  | .whole i => if 0 ≤ i then some i.toNat else none
  | .switch b => some b.toNat
  | .text s =>
    match wordSwitch? s with
    | some b => some b.toNat
    | none => Decimal.readNat? 0x10000000000000000 s.toList
  | _ => none

def byte? (v : Loose) : Option Nat := v.nat?.filter (· < 256)

def switch? : Loose → Option Bool
  | .switch b => some b
  | .whole i => some (i ≠ 0)
  | .number x => some (x != 0)
  | .text "1" => some true
  | .text "0" => some false
  | .text s => wordSwitch? s
  | _ => none

def text? : Loose → Option String
  | .text s => some s
  | .switch b => some (if b then "true" else "false")
  | .whole i => some (toString i)
  | .number x => some (Decimal.plainText x)
  | _ => none

/-- The settings of a group whose names have this order in a list. -/
def group? (names : List String) : Loose → Option (List (String × Loose))
  | .table entries => some entries
  | .list items => some (names.zip items)
  | _ => none

/-- A setting, or its default where the group does not mention it. -/
def setting {α : Type} (entries : List (String × Loose)) (name : String)
    (read : Loose → Option α) (default : α) : Option α :=
  match entries.lookup name with
  | none => some default
  | some v => read v

def scale? (v : Loose) : Option ZoomScale := do
  let entries ← v.group? ["reference_zoom", "step"]
  let reference ← setting entries "reference_zoom" byte? 12
  let step ← setting entries "step" float? 1.5
  some { reference, step }

def layer? : Loose → Option (Option String)
  | .nothing => some none
  | v => v.text?.map some

def overlays? : Loose → Option (List (String × Bool))
  | .table entries => entries.mapM fun (id, v) => v.switch?.map fun b => (id, b)
  | _ => none

def selection? (v : Loose) : Option Selection := do
  let entries ← v.group? ["layer", "overlays"]
  let layer ← setting entries "layer" layer? none
  let overlays ← setting entries "overlays" overlays? []
  some { layer, overlays }

def settings? (entries : List (String × Loose)) : Option Settings := do
  let ratio ← setting entries "ratio" float? 1.0
  let scale ← setting entries "scale" scale? {}
  let selection ← setting entries "menu" selection? {}
  some { ratio, scale, selection }

/-- Puts an entry at the end, or in the place of one of the same name. -/
def put (name : String) (value : Loose) (entries : List (String × Loose)) :
    List (String × Loose) :=
  if (entries.lookup name).isSome then
    entries.map fun entry => if entry.1 = name then (name, value) else entry
  else entries ++ [(name, value)]

end Loose
end MapTheme
