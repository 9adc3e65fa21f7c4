import MapTheme.Arena
import MapTheme.Menu
import MapTheme.Sheet.Finding
import MapTheme.Sorting

/-! A compiled theme: its instructions in document order, and for each kind of query
the handles of those that it is about, in the order in which they are drawn. Paths and
circles are drawn in document order and numbered from zero; labels and symbols go by
priority, those of equal priority in document order. -/
namespace MapTheme

/-- Numbers what has no priority from `next` on. -/
def arrange (next : Nat) : List Finding → List Instruction
  | [] => []
  | .drawn selector drawing :: rest =>
    match drawing.priority? with
    | some priority => ⟨selector, drawing, priority⟩ :: arrange next rest
    | none => ⟨selector, drawing, next⟩ :: arrange (next + 1) rest
  | _ :: rest => arrange next rest

structure Sheet extends Arena where
  paths : List Handle := []
  circles : List Handle := []
  pathLabels : List Handle := []
  pointLabels : List Handle := []
  areaLabels : List Handle := []
  symbols : List Handle := []

namespace Sheet

def pathLabel? (_ : Selector) : Drawing → Option Label
  | .label .along l => some l
  | _ => none

def caption? (kind : Kind) (s : Selector) : Drawing → Option Label
  | .label .caption l => if s.geometry.accepts kind then some l else none
  | _ => none

def empty (generation : Nat) : Sheet := { generation }

def add (s : Sheet) (i : Instruction) : Sheet :=
  let (arena, handle) := s.push i
  let list {α : Type} (picked : Option α) (handles : List Handle) :=
    if picked.isSome then handles ++ [handle] else handles
  { toArena := arena
    paths := list i.drawing.path? s.paths
    circles := list i.drawing.circle? s.circles
    pathLabels := list (pathLabel? i.selector i.drawing) s.pathLabels
    pointLabels := list (caption? .node i.selector i.drawing) s.pointLabels
    areaLabels := list (caption? .way i.selector i.drawing) s.areaLabels
    symbols := list i.drawing.symbol? s.symbols }

def sort (s : Sheet) : Sheet :=
  { s with
    paths := sortBy s.sortKey s.paths
    circles := sortBy s.sortKey s.circles
    pathLabels := sortBy s.sortKey s.pathLabels
    pointLabels := sortBy s.sortKey s.pointLabels
    areaLabels := sortBy s.sortKey s.areaLabels
    symbols := sortBy s.sortKey s.symbols }

def ofInstructions (generation : Nat) (instructions : List Instruction) : Sheet :=
  (instructions.foldl add (empty generation)).sort

def ofFindings (generation : Nat) (findings : List Finding) : Sheet :=
  ofInstructions generation (arrange 0 findings)

end Sheet

namespace Finding

def notice? : Finding → Option Notice
  | .notice n => some n
  | _ => none

def isPruned : Finding → Bool
  | .notice (.disabledCategory _) => true
  | _ => false

def isMissingImage : Finding → Bool
  | .notice (.patternNotFound _) | .notice (.symbolNotFound _) => true
  | _ => false

def isSkipped : Finding → Bool
  | .notice (.unknownLabelKey ..) | .unplaceable => true
  | _ => false

end Finding

def Sheet.tally (s : Sheet) (findings : List Finding) : Tally :=
  { paths := s.paths.length
    circles := s.circles.length
    pathLabels := s.pathLabels.length
    pointLabels := s.pointLabels.length
    areaLabels := s.areaLabels.length
    symbols := s.symbols.length
    prunedRules := findings.countP Finding.isPruned
    missingImages := findings.countP Finding.isMissingImage
    skipped := findings.countP Finding.isSkipped }

/-- The menu of a theme: the first one at the top. -/
def Element.menu? (root : Element) : Option Menu :=
  (root.children.find? (·.name = "stylemenu")).map Menu.ofElement

/-- The categories that are enabled in a theme; without a menu there are none. -/
def Element.categories (root : Element) (selection : Selection) : List String :=
  root.menu?.elim [] (·.categories selection)

def Element.menuNotices (root : Element) (selection : Selection) : List Notice :=
  root.menu?.elim [] fun menu =>
    menu.notices selection ++ [.categoriesEnabled (menu.categories selection).eraseDups.length]

def compile (keys : Dictionary) (images : Images) (settings : Settings) (root : Element) :
    List Finding :=
  Workshop.themeFindings ⟨keys, images, settings, root.categories settings.selection⟩ root

end MapTheme
