import MapTheme.Sheet.Workshop

/-! What the elements of a theme are asked for: the attributes that an element of a name is
read from, each with the values that it can be read from. Two elements that agree on these
describe the same drawing, or declare the same of a rule. -/
namespace MapTheme

namespace Element

def takesAny (_ : String) : Bool := true

def takes {α : Type} (read : String → Option α) (value : String) : Bool := (read value).isSome

def iconDemands : List (String × (String → Bool)) :=
  [("src", takesAny), ("symbol-width", takes Value.number?), ("symbol-height", takes Value.number?),
    ("symbol-percent", takes Value.number?)]

def ruleDemands : List (String × (String → Bool)) :=
  [("cat", takesAny), ("k", takesAny), ("v", takesAny), ("e", takes Geometry.read?),
    ("closed", takes Outline.read?), ("zoom-min", takes Workshop.zoom?),
    ("zoom-max", takes Workshop.zoom?)]

def areaDemands : List (String × (String → Bool)) :=
  [("fill", takes Color.read?), ("stroke", takes Color.read?), ("stroke-width", takes Value.number?),
    ("scale", takes ScaleMode.read?)] ++ iconDemands

def lineDemands : List (String × (String → Bool)) :=
  [("stroke", takes Color.read?), ("stroke-width", takes Value.number?),
    ("stroke-dasharray", takes Value.lengths?), ("stroke-linecap", takes LineCap.read?),
    ("stroke-linejoin", takes LineJoin.read?), ("curve", takesAny), ("scale", takes ScaleMode.read?),
    ("dy", takes Value.number?)]

def circleDemands : List (String × (String → Bool)) :=
  [("fill", takes Color.read?), ("stroke", takes Color.read?), ("stroke-width", takes Value.number?),
    ("radius", takes Value.number?), ("r", takes Value.number?),
    ("scale-radius", takes Value.switch?)]

def labelDemands : List (String × (String → Bool)) :=
  [("k", takesAny), ("priority", takes Value.whole?), ("fill", takes Color.read?),
    ("stroke", takes Color.read?), ("stroke-width", takes Value.number?),
    ("font-size", takes Value.number?), ("font-family", takes FontFamily.read?),
    ("font-style", takes FontStyle.read?), ("dy", takes Value.number?)]

/-- The attributes that an element of a name is asked for, each with the values that it is
not passed over for. -/
def demands : String → List (String × (String → Bool))
  | "rule" => ruleDemands
  | "area" => areaDemands
  | "line" => lineDemands
  | "circle" => circleDemands
  | "pathText" => labelDemands
  | "caption" => labelDemands
  | "symbol" => ("priority", takes Value.whole?) :: iconDemands
  | _ => []

/-- Whether an element of a name is asked for an attribute and can be read from its value. -/
def usable (name : String) (pair : String × String) : Bool :=
  (demands name).any fun demand => demand.1 = pair.1 && demand.2 pair.2

/-- Two elements that give the same to every demand. -/
def Agrees (demanded : List (String × (String → Bool))) (e f : Element) : Prop :=
  ∀ demand ∈ demanded, (e.get? demand.1).filter demand.2 = (f.get? demand.1).filter demand.2

namespace Agrees

variable {demanded : List (String × (String → Bool))} {e f : Element}

theorem get? {name : String} (same : Agrees demanded e f) (asked : (name, takesAny) ∈ demanded) :
    e.get? name = f.get? name := by
  have all (value : Option String) : value.filter takesAny = value := by cases value <;> rfl
  have equal : (e.get? name).filter takesAny = (f.get? name).filter takesAny := same _ asked
  rwa [all, all] at equal

theorem read? {α : Type} {name : String} {read : String → Option α} (same : Agrees demanded e f)
    (asked : (name, takes read) ∈ demanded) : e.read? name read = f.read? name read := by
  have only (value : Option String) : value.bind read = (value.filter (takes read)).bind read := by
    cases value with
    | none => rfl
    | some text => cases taken : read text <;> simp [Option.filter, takes, taken]
  have equal : (e.get? name).filter (takes read) = (f.get? name).filter (takes read) := same _ asked
  rw [Element.read?, Element.read?, only, equal, ← only]

theorem size? {name : String} (w : Workshop) (same : Agrees demanded e f)
    (asked : (name, takes Value.number?) ∈ demanded) : w.size? e name = w.size? f name :=
  congrArg (Option.map _) (same.read? asked)

theorem mono {fewer : List (String × (String → Bool))} (same : Agrees demanded e f)
    (within : fewer ⊆ demanded) : Agrees fewer e f := fun demand member =>
  same demand (within member)

end Agrees
end Element

namespace Workshop
open Element

variable (w : Workshop) {e f : Element}

theorem icon_agrees (same : Agrees iconDemands e f) : w.icon? e = w.icon? f := by
  have source : e.get? "src" = f.get? "src" := same.get? (by simp [iconDemands])
  have width : w.size? e "symbol-width" = w.size? f "symbol-width" :=
    same.size? w (by simp [iconDemands])
  have height : w.size? e "symbol-height" = w.size? f "symbol-height" :=
    same.size? w (by simp [iconDemands])
  have percent : e.read? "symbol-percent" Value.number? = f.read? "symbol-percent" Value.number? :=
    same.read? (by simp [iconDemands])
  simp only [icon?, source, width, height, percent]

theorem area_agrees (same : Agrees areaDemands e f) : w.area e = w.area f := by
  have icon : w.icon? e = w.icon? f :=
    w.icon_agrees (same.mono (List.subset_append_right _ _))
  have fill : e.read? "fill" Color.read? = f.read? "fill" Color.read? :=
    same.read? (by simp [areaDemands])
  have stroke : e.read? "stroke" Color.read? = f.read? "stroke" Color.read? :=
    same.read? (by simp [areaDemands])
  have width : w.size? e "stroke-width" = w.size? f "stroke-width" :=
    same.size? w (by simp [areaDemands])
  have mode : e.read? "scale" ScaleMode.read? = f.read? "scale" ScaleMode.read? :=
    same.read? (by simp [areaDemands])
  simp only [area, icon, fill, stroke, width, mode]

theorem line_agrees (same : Agrees lineDemands e f) : w.line e = w.line f := by
  have stroke : e.read? "stroke" Color.read? = f.read? "stroke" Color.read? :=
    same.read? (by simp [lineDemands])
  have width : w.size? e "stroke-width" = w.size? f "stroke-width" :=
    same.size? w (by simp [lineDemands])
  have dash : e.read? "stroke-dasharray" Value.lengths? = f.read? "stroke-dasharray" Value.lengths? :=
    same.read? (by simp [lineDemands])
  have cap : e.read? "stroke-linecap" LineCap.read? = f.read? "stroke-linecap" LineCap.read? :=
    same.read? (by simp [lineDemands])
  have join : e.read? "stroke-linejoin" LineJoin.read? = f.read? "stroke-linejoin" LineJoin.read? :=
    same.read? (by simp [lineDemands])
  have curve : e.get? "curve" = f.get? "curve" := same.get? (by simp [lineDemands])
  have mode : e.read? "scale" ScaleMode.read? = f.read? "scale" ScaleMode.read? :=
    same.read? (by simp [lineDemands])
  have offset : w.size? e "dy" = w.size? f "dy" := same.size? w (by simp [lineDemands])
  simp only [line, stroke, width, dash, cap, join, curve, mode, offset]

theorem circle_agrees (same : Agrees circleDemands e f) : w.circle e = w.circle f := by
  have fill : e.read? "fill" Color.read? = f.read? "fill" Color.read? :=
    same.read? (by simp [circleDemands])
  have stroke : e.read? "stroke" Color.read? = f.read? "stroke" Color.read? :=
    same.read? (by simp [circleDemands])
  have width : w.size? e "stroke-width" = w.size? f "stroke-width" :=
    same.size? w (by simp [circleDemands])
  have long : w.size? e "radius" = w.size? f "radius" := same.size? w (by simp [circleDemands])
  have short : w.size? e "r" = w.size? f "r" := same.size? w (by simp [circleDemands])
  have grows : e.read? "scale-radius" Value.switch? = f.read? "scale-radius" Value.switch? :=
    same.read? (by simp [circleDemands])
  simp only [circle, fill, stroke, width, long, short, grows]

theorem labelKey_agrees (same : Agrees labelDemands e f) : w.labelKey? e = w.labelKey? f := by
  have key : e.get? "k" = f.get? "k" := same.get? (by simp [labelDemands])
  simp only [labelKey?, key]

theorem label_agrees (same : Agrees labelDemands e f) : w.label e = w.label f := by
  have priority : e.read? "priority" Value.whole? = f.read? "priority" Value.whole? :=
    same.read? (by simp [labelDemands])
  have fill : e.read? "fill" Color.read? = f.read? "fill" Color.read? :=
    same.read? (by simp [labelDemands])
  have stroke : e.read? "stroke" Color.read? = f.read? "stroke" Color.read? :=
    same.read? (by simp [labelDemands])
  have width : w.size? e "stroke-width" = w.size? f "stroke-width" :=
    same.size? w (by simp [labelDemands])
  have size : w.size? e "font-size" = w.size? f "font-size" :=
    same.size? w (by simp [labelDemands])
  have family : e.read? "font-family" FontFamily.read? = f.read? "font-family" FontFamily.read? :=
    same.read? (by simp [labelDemands])
  have style : e.read? "font-style" FontStyle.read? = f.read? "font-style" FontStyle.read? :=
    same.read? (by simp [labelDemands])
  have offset : w.size? e "dy" = w.size? f "dy" := same.size? w (by simp [labelDemands])
  funext key
  simp only [label, priority, fill, stroke, width, size, family, style, offset]

theorem declared_agrees (same : Agrees ruleDemands e f) : w.declared e = w.declared f := by
  have keys : e.get? "k" = f.get? "k" := same.get? (by simp [ruleDemands])
  have values : e.get? "v" = f.get? "v" := same.get? (by simp [ruleDemands])
  have filter : w.filter? e = w.filter? f := by
    simp [filter?, Element.has, keys, values]
  have geometry : e.read? "e" Geometry.read? = f.read? "e" Geometry.read? :=
    same.read? (by simp [ruleDemands])
  have outline : e.read? "closed" Outline.read? = f.read? "closed" Outline.read? :=
    same.read? (by simp [ruleDemands])
  have least : e.read? "zoom-min" zoom? = f.read? "zoom-min" zoom? :=
    same.read? (by simp [ruleDemands])
  have greatest : e.read? "zoom-max" zoom? = f.read? "zoom-max" zoom? :=
    same.read? (by simp [ruleDemands])
  simp only [declared, filter, geometry, outline, least, greatest]

theorem enables_agrees (same : Agrees ruleDemands e f) : w.enables e = w.enables f := by
  have category : e.get? "cat" = f.get? "cat" := same.get? (by simp [ruleDemands])
  simp only [enables, category]

end Workshop

end MapTheme
