import MapTheme.Geometry
import MapTheme.TagFilter
import MapTheme.Zoom

/-! Selectors decide which features an instruction is drawn for. The selector of a
rule narrows that of the rule around it by what the rule declares, so it never
admits a feature that the outer one rejects. -/
namespace MapTheme

/-- What one rule declares; what it leaves out demands nothing. -/
structure Declared where
  geometry : Option Geometry := none
  outline : Option Outline := none
  least : Option Nat := none
  greatest : Option Nat := none
  filter : Option TagFilter := none
deriving Repr, DecidableEq

structure Selector where
  geometry : Geometry := .any
  outline : Outline := .any
  zooms : ZoomSpan := {}
  filters : List TagFilter := []
deriving Repr, DecidableEq

namespace Selector

/-- A filter that admits everything is not kept. -/
def addFilter (s : Selector) (f : TagFilter) : Selector :=
  if f.isTautology then s else { s with filters := s.filters ++ [f] }

def narrowGeometry (s : Selector) (geometry : Geometry) : Selector :=
  { s with geometry := s.geometry.narrow geometry }

def narrowOutline (s : Selector) (outline : Outline) : Selector :=
  { s with outline := s.outline.narrow outline }

def narrowZooms (s : Selector) (least greatest : Option Nat) : Selector :=
  { s with zooms := s.zooms.narrow least greatest }

/-- The selector of a rule inside a rule with selector `s`. -/
def refine (s : Selector) (d : Declared) : Selector :=
  let narrowed := ((s.narrowGeometry (d.geometry.getD .any)).narrowOutline
    (d.outline.getD .any)).narrowZooms d.least d.greatest
  d.filter.elim narrowed narrowed.addFilter

def containsZoom (s : Selector) (zoom : Nat) : Bool := s.zooms.contains zoom

def acceptsTags (s : Selector) (tags : List Tag) : Bool := s.filters.all (·.accepts tags)

/-- Whether a feature is selected. Only ways are asked whether they are closed. -/
def accepts (s : Selector) (zoom : Nat) (kind : Kind) (closed : Bool) (tags : List Tag) : Bool :=
  s.containsZoom zoom && s.geometry.accepts kind &&
    (kind = .node || s.outline.accepts closed) && s.acceptsTags tags

/-- A way, at a level that is known to be right. -/
def acceptsWay (s : Selector) (closed : Bool) (tags : List Tag) : Bool :=
  s.geometry.accepts .way && s.outline.accepts closed && s.acceptsTags tags

def acceptsWayAt (s : Selector) (zoom : Nat) (closed : Bool) (tags : List Tag) : Bool :=
  s.accepts zoom .way closed tags

def acceptsNode (s : Selector) (tags : List Tag) : Bool :=
  s.geometry.accepts .node && s.acceptsTags tags

def acceptsNodeAt (s : Selector) (zoom : Nat) (tags : List Tag) : Bool :=
  s.accepts zoom .node false tags

end Selector
end MapTheme
