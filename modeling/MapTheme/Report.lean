import MapTheme.Feature
import MapTheme.Style

/-! Reports of the instructions for a feature at a zoom level, and their text: a line
of JSON for each feature. -/
namespace MapTheme

/-- An instruction with all that depends on the level worked out. -/
inductive Drawn where
  | path (order : Int) (area curve : Bool) (pen : Option Pen) (brush : Brush) (offset : Float)
  | circle (order : Int) (radius : Float) (pen : Option Pen) (brush : Brush)
  | label (priority : Int) (text : String) (font : Font) (fill stroke : Color)
    (strokeWidth offset : Float)
  | symbol (symbol : Symbol)

structure Report where
  id : Option Json
  instructions : List Drawn

namespace Report

def ofPath (zoom : Nat) (p : Placed Path) : Drawn :=
  .path p.order p.drawing.area p.drawing.curve (p.drawing.pen zoom) p.drawing.brush
    (p.drawing.offsetAt zoom)

def ofCircle (zoom : Nat) (p : Placed Circle) : Drawn :=
  .circle p.order (p.drawing.radiusAt zoom) p.drawing.pen p.drawing.brush

/-- The text of a label is the value of the first tag with its key. -/
def labelText (tags : List Tag) (l : Label) : String :=
  ((tags.find? (·.key = l.key)).map (·.value)).getD ""

def ofLabel (tags : List Tag) (p : Placed Label) : Drawn :=
  .label p.drawing.priority (labelText tags p.drawing) p.drawing.font p.drawing.fill
    p.drawing.stroke p.drawing.strokeWidth p.drawing.offset

def ofSymbol (p : Placed Symbol) : Drawn := .symbol p.drawing

def shapes (s : Style) (zoom : Nat) (f : Feature) : List Drawn :=
  match f.kind with
  | .way => (s.paths zoom f.closed f.tags).map (ofPath zoom)
  | .node => (s.circles zoom f.tags).map (ofCircle zoom)

def ofFeature (s : Style) (zoom : Nat) (f : Feature) : Report :=
  { id := f.id
    instructions := shapes s zoom f ++
      (s.labels zoom f.kind f.closed f.tags).map (ofLabel f.tags) ++
      (s.symbols zoom f.kind f.closed f.tags).map ofSymbol }

end Report

def Color.json (c : Color) : Json := .string c.text

def optionJson (x : Option Float) : Json := x.elim .null .float

def Icon.json (i : Icon) : Json :=
  .object [("path", .string i.path), ("width", optionJson i.width),
    ("height", optionJson i.height), ("percent", optionJson i.percent)]

def Brush.json : Brush → Json
  | .none => .object [("type", .string "none")]
  | .solid c => .object [("type", .string "solid"), ("value", c.json)]
  | .pattern i => .object [("type", .string "pattern"), ("value", i.json)]

def Pen.json (p : Pen) : Json :=
  .object [("color", p.color.json), ("width", .float p.width),
    ("dash", .array (p.dash.map .float)), ("cap", .string p.cap.text),
    ("join", .string p.join.text)]

def penJson (p : Option Pen) : Json := p.elim .null Pen.json

def Font.json (f : Font) : Json :=
  .object [("family", .string f.family.text), ("style", .string f.style.text),
    ("size", .float f.size)]

def Drawn.json : Drawn → Json
  | .path order area curve pen brush offset =>
    .object [("kind", .string "path"), ("z_order", .int order), ("area", .bool area),
      ("curve", .bool curve), ("pen", penJson pen), ("brush", brush.json), ("dy", .float offset)]
  | .circle order radius pen brush =>
    .object [("kind", .string "circle"), ("z_order", .int order), ("radius", .float radius),
      ("pen", penJson pen), ("brush", brush.json)]
  | .label priority text font fill stroke strokeWidth offset =>
    .object [("kind", .string "label"), ("priority", .int priority), ("text", .string text),
      ("font", font.json), ("fill", fill.json), ("stroke", stroke.json),
      ("stroke_width", .float strokeWidth), ("dy", .float offset)]
  | .symbol s =>
    .object [("kind", .string "symbol"), ("priority", .int s.priority), ("icon", s.icon.json)]

def Report.json (r : Report) : Json :=
  .object ((r.id.elim [] fun id => [("id", id)]) ++
    [("instructions", .array (r.instructions.map Drawn.json))])

def Report.line (r : Report) : String := r.json.text

end MapTheme
