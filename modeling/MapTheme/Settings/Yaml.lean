import MapTheme.Settings.Yaml.Token.Lexer
import MapTheme.Settings.Yaml.Value

/-! Reading YAML: a text holds at most one document, a table. It is cut into tokens,
which are nested to nodes, which denote values. -/
namespace MapTheme.Yaml

/-- The table that a text describes. No document at all is an empty one. -/
def read? (cs : List Char) : Option (List (String × Loose)) := do
  match ← document? (← tokens? cs) with
  | none => some []
  | some root =>
    let (value, _) ← root.value? []
    match ← value.loose? with
    | .table entries => some entries
    | _ => none

end MapTheme.Yaml
