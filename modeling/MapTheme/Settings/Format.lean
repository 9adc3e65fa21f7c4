import MapTheme.Json.Reader
import MapTheme.Settings.Place
import MapTheme.Settings.Toml
import MapTheme.Settings.Yaml
import MapTheme.Text.Lossy

/-! The formats of settings files. -/
namespace MapTheme

mutual
def Loose.ofJson : Json → Loose
  | .null => .nothing
  | .bool value => .switch value
  | .int value => .whole value
  | .float value => .number value
  | .string value => .text value
  | .array items => .list (Loose.ofItems items)
  | .object members => .table (Loose.ofMembers members)

def Loose.ofItems : List Json → List Loose
  | [] => []
  | item :: items => Loose.ofJson item :: Loose.ofItems items

def Loose.ofMembers : List (String × Json) → List (String × Loose)
  | [] => []
  | (name, value) :: members => (name, Loose.ofJson value) :: Loose.ofMembers members
end

inductive SettingsFormat where
  | toml
  | json
  | yaml
deriving Repr, DecidableEq

namespace SettingsFormat

def extensions : List (String × SettingsFormat) :=
  [("toml", .toml), ("json", .json), ("yaml", .yaml), ("yml", .yaml)]

def entries? : SettingsFormat → List Char → Option (List (String × Loose))
  | .toml, cs => Toml.read? cs
  | .yaml, cs => Yaml.read? cs
  | .json, cs =>
    match Json.read? cs with
    | some (.object members) => some (Loose.ofMembers members)
    | _ => none

end SettingsFormat

/-- The settings in the bytes of a file, which may start with a byte order mark. -/
def Settings.ofBytes? (format : SettingsFormat) (bytes : List UInt8) : Option Settings := do
  let mark : List UInt8 := [0xEF, 0xBB, 0xBF]
  let bytes := if mark.isPrefixOf bytes then bytes.drop mark.length else bytes
  let entries ← format.entries? (Text.decodeLossy bytes)
  match Loose.ofEntries entries with
  | .table entries => Loose.settings? entries
  | _ => none

end MapTheme
