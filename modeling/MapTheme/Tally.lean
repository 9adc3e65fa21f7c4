/-! Counts of what a theme was compiled into and of what was left out. -/
namespace MapTheme

structure Tally where
  paths : Nat := 0
  circles : Nat := 0
  pathLabels : Nat := 0
  pointLabels : Nat := 0
  areaLabels : Nat := 0
  symbols : Nat := 0
  /-- Rules of categories that are not enabled, each with all that it holds. -/
  prunedRules : Nat := 0
  missingImages : Nat := 0
  /-- Labels that no feature could show. -/
  skipped : Nat := 0
deriving Repr, DecidableEq

def Tally.entries (t : Tally) : List (String × Nat) :=
  [("paths", t.paths), ("circles", t.circles), ("path_labels", t.pathLabels),
   ("point_labels", t.pointLabels), ("area_labels", t.areaLabels), ("symbols", t.symbols),
   ("pruned_rules", t.prunedRules), ("missing_resources", t.missingImages),
   ("skipped", t.skipped)]

def Tally.text (t : Tally) : String :=
  "LoadReport \x7b " ++
    String.intercalate ", " (t.entries.map fun (name, count) => name ++ ": " ++ toString count) ++
    " \x7d"

end MapTheme
