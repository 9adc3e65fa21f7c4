import MapTheme.Color
import MapTheme.Font
import MapTheme.Stroke

/-! What an instruction draws: a line or an area along a way, a circle on a node, a
text, or an image. Sizes are those at the reference zoom level, already multiplied
by the ratio of the display. -/
namespace MapTheme

/-- An image and the size asked for; the percentage is of the image's own size. -/
structure Icon where
  path : String
  width : Option Float := none
  height : Option Float := none
  percent : Option Float := none

inductive Brush where
  | none
  | solid (color : Color)
  | pattern (icon : Icon)

/-- A stroke at a zoom level. No dash lengths means an unbroken line. -/
structure Pen where
  color : Color
  width : Float
  dash : List Float := []
  cap : LineCap := .round
  join : LineJoin := .round

/-- A line, or an area with an optional outline. -/
structure Path where
  area : Bool := false
  stroke : Option Color := none
  width : Float := 0.0
  dash : List Float := []
  cap : LineCap := .round
  join : LineJoin := .round
  brush : Brush := .none
  curve : Bool := false
  mode : ScaleMode := .stroke
  offset : Float := 0.0
  scale : ZoomScale

namespace Path

def pen (p : Path) (zoom : Nat) : Option Pen :=
  p.stroke.map fun color =>
    { color
      width := p.mode.stretch p.scale zoom p.width
      dash := p.dash.map (p.mode.stretchDash p.scale zoom)
      cap := p.cap
      join := p.join }

def offsetAt (p : Path) (zoom : Nat) : Float := p.mode.stretch p.scale zoom p.offset

end Path

structure Circle where
  stroke : Option Color := none
  width : Float := 0.0
  fill : Option Color := none
  radius : Float := 0.0
  grows : Bool := false
  scale : ZoomScale

namespace Circle

def pen (c : Circle) : Option Pen := c.stroke.map fun color => { color, width := c.width }

def brush (c : Circle) : Brush := c.fill.elim .none .solid

def radiusAt (c : Circle) (zoom : Nat) : Float :=
  if c.grows then c.radius * c.scale.factor zoom else c.radius

end Circle

/-- A text, taken from the tag with key number `key`. -/
structure Label where
  key : Nat
  priority : Int := 0
  fill : Color := .black
  stroke : Color := .black
  strokeWidth : Float := 0.0
  font : Font
  offset : Float := 0.0

structure Symbol where
  priority : Int := 0
  icon : Icon

/-- Where a label goes: along a way, or on a node and in the middle of an area. -/
inductive Placement where
  | along
  | caption
deriving Repr, DecidableEq

inductive Drawing where
  | path (path : Path)
  | circle (circle : Circle)
  | label (placement : Placement) (label : Label)
  | symbol (symbol : Symbol)

namespace Drawing

def priority? : Drawing → Option Int
  | .path _ => none
  | .circle _ => none
  | .label _ l => some l.priority
  | .symbol s => some s.priority

def path? : Drawing → Option Path
  | .path p => some p
  | _ => none

def circle? : Drawing → Option Circle
  | .circle c => some c
  | _ => none

def label? : Drawing → Option Label
  | .label _ l => some l
  | _ => none

def symbol? : Drawing → Option Symbol
  | .symbol s => some s
  | _ => none

end Drawing
end MapTheme
