import MapTheme.Markup.Document
import MapTheme.Sheet

/-! A style holds the theme that was loaded last, and counts how often that has
changed. A handle names an instruction of one particular load, so it stops resolving
with the next change. A load that fails changes nothing. -/
namespace MapTheme

inductive LoadError where
  | malformed (fault : Markup.Fault)
  | unexpectedRoot (name : String)
deriving Repr, DecidableEq

def LoadError.message : LoadError → String
  | .malformed fault => fault.message
  | .unexpectedRoot name => "Expected <rendertheme> root element, found <" ++ name ++ ">"

structure Style where
  sheet : Sheet := .empty 0
  generation : Nat := 0

structure Loaded where
  style : Style
  tally : Tally
  notices : List Notice

def Loaded.ofReload : Style × Except LoadError (Tally × List Notice) → Except LoadError Loaded
  | (style, outcome) => outcome.map fun (tally, notices) => { style, tally, notices }

def loadNotices (tally : Tally) : List Notice :=
  .loaded tally ::
    if 0 < tally.prunedRules ∨ 0 < tally.missingImages then [.omitted tally] else []

namespace Style

def ofFindings (generation : Nat) (findings : List Finding) : Style :=
  ⟨.ofFindings generation findings, generation⟩

/-- Loads a document in place of what there is. What fails leaves the style as it was. -/
def reload (s : Style) (keys : Dictionary) (images : Images) (settings : Settings) (root : Element) :
    Style × Except LoadError (Tally × List Notice) :=
  if root.name = "rendertheme" then
    let findings := compile keys images settings root
    let style := ofFindings (s.generation + 1) findings
    let tally := style.sheet.tally findings
    (style, .ok (tally,
      root.menuNotices settings.selection ++ findings.filterMap Finding.notice? ++
        loadNotices tally))
  else (s, .error (.unexpectedRoot root.name))

def reloadText (s : Style) (keys : Dictionary) (images : Images) (settings : Settings)
    (text : String) : Style × Except LoadError (Tally × List Notice) :=
  match Markup.parse text with
  | .ok root => s.reload keys images settings root
  | .error fault => (s, .error (.malformed fault))

def load (s : Style) (keys : Dictionary) (images : Images) (settings : Settings) (root : Element) :
    Except LoadError Loaded :=
  Loaded.ofReload (s.reload keys images settings root)

def loadText (s : Style) (keys : Dictionary) (images : Images) (settings : Settings)
    (text : String) : Except LoadError Loaded :=
  Loaded.ofReload (s.reloadText keys images settings text)

def clear (s : Style) : Style := ⟨.empty (s.generation + 1), s.generation + 1⟩

def isEmpty (s : Style) : Bool := s.sheet.isEmpty

def handle {α : Type} (_ : Style) (placed : Placed α) : Handle := placed.toHandle

def get? (s : Style) (h : Handle) : Option Instruction := s.sheet.get? h

def paths (s : Style) (zoom : Nat) (closed : Bool) (tags : List Tag) : List (Placed Path) :=
  s.sheet.select s.sheet.paths Drawing.path? (·.acceptsWayAt zoom closed tags)

def circles (s : Style) (zoom : Nat) (tags : List Tag) : List (Placed Circle) :=
  s.sheet.select s.sheet.circles Drawing.circle? (·.acceptsNodeAt zoom tags)

def pathLabels (s : Style) (zoom : Nat) : List (Placed Label) :=
  s.sheet.select s.sheet.pathLabels Drawing.label? (·.containsZoom zoom)

def pointLabels (s : Style) (zoom : Nat) : List (Placed Label) :=
  s.sheet.select s.sheet.pointLabels Drawing.label? (·.containsZoom zoom)

def areaLabels (s : Style) (zoom : Nat) : List (Placed Label) :=
  s.sheet.select s.sheet.areaLabels Drawing.label? (·.containsZoom zoom)

def pointSymbols (s : Style) (zoom : Nat) : List (Placed Symbol) :=
  s.sheet.select s.sheet.symbols Drawing.symbol? fun r =>
    r.containsZoom zoom && r.geometry.accepts .node

def areaSymbols (s : Style) (zoom : Nat) : List (Placed Symbol) :=
  s.sheet.select s.sheet.symbols Drawing.symbol? fun r =>
    r.containsZoom zoom && r.geometry.accepts .way

/-- The labels that a feature of a kind may show. A closed way may show those of
areas and those of ways. -/
def labelCandidates (s : Style) (zoom : Nat) : Kind → Bool → List (Placed Label)
  | .node, _ => s.pointLabels zoom
  | .way, true => sortBy (·.order) (s.areaLabels zoom ++ s.pathLabels zoom)
  | .way, false => s.pathLabels zoom

/-- The labels for a feature: those that select it and whose key it carries. -/
def labels (s : Style) (zoom : Nat) (kind : Kind) (closed : Bool) (tags : List Tag) :
    List (Placed Label) :=
  (s.labelCandidates zoom kind closed).filter fun p =>
    p.selector.accepts zoom kind closed tags && tags.any (·.key = p.drawing.key)

/-- The symbols that a feature of a kind may show; an open way shows none. -/
def symbolCandidates (s : Style) (zoom : Nat) : Kind → Bool → List (Placed Symbol)
  | .node, _ => s.pointSymbols zoom
  | .way, true => s.areaSymbols zoom
  | .way, false => []

def symbols (s : Style) (zoom : Nat) (kind : Kind) (closed : Bool) (tags : List Tag) :
    List (Placed Symbol) :=
  (s.symbolCandidates zoom kind closed).filter (·.selector.accepts zoom kind closed tags)

end Style
end MapTheme
