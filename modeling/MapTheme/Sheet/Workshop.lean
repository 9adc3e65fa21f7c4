import MapTheme.Drawing
import MapTheme.Images
import MapTheme.Markup.Element
import MapTheme.Selector
import MapTheme.Settings
import MapTheme.Value

/-! The drawings that elements of a theme describe, each a function of its element
alone, and beside each the complaints about it: one for every attribute that the
drawing reads and whose value it cannot use, in the order in which they are read. -/
namespace MapTheme

structure Workshop where
  keys : Dictionary
  images : Images
  settings : Settings
  categories : List String

namespace Element

def read? {α : Type} (e : Element) (name : String) (read : String → Option α) : Option α :=
  (e.get? name).bind read

def complaint {α : Type} (e : Element) (name : String) (read : String → Option α) : List Notice :=
  match e.get? name with
  | none => []
  | some value => if (read value).isNone then [.invalidAttribute name value e.name] else []

end Element

namespace Workshop

/-- A size, multiplied by the ratio of the display. -/
def size? (w : Workshop) (e : Element) (name : String) : Option Float :=
  (e.read? name Value.number?).map (· * w.settings.ratio)

def icon? (w : Workshop) (e : Element) : Option Icon :=
  ((e.get? "src").bind w.images.locate).map fun path =>
    { path
      width := w.size? e "symbol-width"
      height := w.size? e "symbol-height"
      percent := e.read? "symbol-percent" Value.number? }

def searchNotices (w : Workshop) (e : Element) : List Notice :=
  (e.get? "src").elim [] w.images.notices

def iconComplaints (e : Element) : List Notice :=
  e.complaint "symbol-width" Value.number? ++ e.complaint "symbol-height" Value.number? ++
    e.complaint "symbol-percent" Value.number?

/-- An area keeps its fill color where its pattern is not found. -/
def area (w : Workshop) (e : Element) : Path :=
  { area := true
    stroke := e.read? "stroke" Color.read?
    width := (w.size? e "stroke-width").getD 0.0
    brush := match w.icon? e with
      | some icon => .pattern icon
      | none => (e.read? "fill" Color.read?).elim .none .solid
    mode := (e.read? "scale" ScaleMode.read?).getD .stroke
    scale := w.settings.scale }

def areaComplaints (w : Workshop) (e : Element) : List Notice :=
  e.complaint "fill" Color.read? ++ e.complaint "stroke" Color.read? ++
    e.complaint "stroke-width" Value.number? ++ e.complaint "scale" ScaleMode.read? ++
    w.searchNotices e ++
    match e.get? "src", w.icon? e with
    | none, _ => []
    | some _, some _ => iconComplaints e
    | some source, none => [.patternNotFound source]

def line (w : Workshop) (e : Element) : Path :=
  { stroke := e.read? "stroke" Color.read?
    width := (w.size? e "stroke-width").getD 0.0
    dash := ((e.read? "stroke-dasharray" Value.lengths?).getD []).map (· * w.settings.ratio)
    cap := (e.read? "stroke-linecap" LineCap.read?).getD .round
    join := (e.read? "stroke-linejoin" LineJoin.read?).getD .round
    curve := e.get? "curve" = some "cubic"
    mode := (e.read? "scale" ScaleMode.read?).getD .stroke
    offset := (w.size? e "dy").getD 0.0
    scale := w.settings.scale }

def lineComplaints (e : Element) : List Notice :=
  e.complaint "stroke" Color.read? ++ e.complaint "stroke-width" Value.number? ++
    e.complaint "stroke-dasharray" Value.lengths? ++
    e.complaint "stroke-linecap" LineCap.read? ++ e.complaint "stroke-linejoin" LineJoin.read? ++
    e.complaint "scale" ScaleMode.read? ++ e.complaint "dy" Value.number?

/-- The radius has a short name, which counts where the long one cannot be used. -/
def circle (w : Workshop) (e : Element) : Circle :=
  { stroke := e.read? "stroke" Color.read?
    width := (w.size? e "stroke-width").getD 0.0
    fill := e.read? "fill" Color.read?
    radius := ((w.size? e "radius").or (w.size? e "r")).getD 0.0
    grows := (e.read? "scale-radius" Value.switch?).getD false
    scale := w.settings.scale }

def circleComplaints (e : Element) : List Notice :=
  e.complaint "fill" Color.read? ++ e.complaint "stroke" Color.read? ++
    e.complaint "stroke-width" Value.number? ++ e.complaint "radius" Value.number? ++
    (if (e.read? "radius" Value.number?).isSome then [] else e.complaint "r" Value.number?) ++
    e.complaint "scale-radius" Value.switch?

def labelKey? (w : Workshop) (e : Element) : Option Nat := (e.get? "k").bind w.keys.id?

def label (w : Workshop) (e : Element) (key : Nat) : Label :=
  { key
    priority := (e.read? "priority" Value.whole?).getD 0
    fill := (e.read? "fill" Color.read?).getD .black
    stroke := (e.read? "stroke" Color.read?).getD .black
    strokeWidth := (w.size? e "stroke-width").getD 0.0
    font :=
      { family := (e.read? "font-family" FontFamily.read?).getD .default
        style := (e.read? "font-style" FontStyle.read?).getD .normal
        size := (w.size? e "font-size").getD (Font.defaultSize * w.settings.ratio) }
    offset := (w.size? e "dy").getD 0.0 }

def labelComplaints (e : Element) : List Notice :=
  e.complaint "priority" Value.whole? ++ e.complaint "fill" Color.read? ++
    e.complaint "stroke" Color.read? ++ e.complaint "stroke-width" Value.number? ++
    e.complaint "font-size" Value.number? ++ e.complaint "font-family" FontFamily.read? ++
    e.complaint "font-style" FontStyle.read? ++ e.complaint "dy" Value.number?

def symbol (e : Element) (icon : Icon) : Symbol :=
  { priority := (e.read? "priority" Value.whole?).getD 0, icon }

def symbolComplaints (e : Element) : List Notice :=
  iconComplaints e ++ e.complaint "priority" Value.whole?

/-- Where only one of the two lists of a filter is given, the other one is a star. -/
def filter? (w : Workshop) (e : Element) : Option TagFilter :=
  if e.has "k" || e.has "v" then
    some (.parse w.keys ((e.get? "k").getD "*") ((e.get? "v").getD "*"))
  else none

def zoom? (text : String) : Option Nat := Value.zoom? maxZoom text

def declared (w : Workshop) (e : Element) : Declared :=
  { geometry := e.read? "e" Geometry.read?
    outline := e.read? "closed" Outline.read?
    least := e.read? "zoom-min" zoom?
    greatest := e.read? "zoom-max" zoom?
    filter := w.filter? e }

def ruleComplaints (w : Workshop) (e : Element) : List Notice :=
  (if e.has "k" || e.has "v" then
    (TagFilter.unknownKeys w.keys ((e.get? "k").getD "*")).map .unknownFilterKey
  else []) ++
    e.complaint "e" Geometry.read? ++ e.complaint "closed" Outline.read? ++
    e.complaint "zoom-min" zoom? ++ e.complaint "zoom-max" zoom?

/-- A rule without a category is always enabled. -/
def enables (w : Workshop) (e : Element) : Bool :=
  (e.get? "cat").all fun category => category ∈ w.categories

end Workshop
end MapTheme
