import MapTheme.Zoom

/-! The words that choose how lines are drawn and which of their sizes grow with the
zoom level. -/
namespace MapTheme

inductive LineCap where
  | butt
  | round
  | square
deriving Repr, DecidableEq

namespace LineCap

def text : LineCap → String
  | .butt => "butt"
  | .round => "round"
  | .square => "square"

def read? : String → Option LineCap
  | "butt" => some .butt
  | "round" => some .round
  | "square" => some .square
  | _ => none

end LineCap

inductive LineJoin where
  | miter
  | round
  | bevel
deriving Repr, DecidableEq

namespace LineJoin

def text : LineJoin → String
  | .miter => "miter"
  | .round => "round"
  | .bevel => "bevel"

def read? : String → Option LineJoin
  | "miter" => some .miter
  | "round" => some .round
  | "bevel" => some .bevel
  | _ => none

end LineJoin

/-- Which sizes of a path grow with the zoom level: none of them, all but the dash
lengths, or all. -/
inductive ScaleMode where
  | fixed
  | stroke
  | all
deriving Repr, DecidableEq

namespace ScaleMode

def text : ScaleMode → String
  | .fixed => "none"
  | .stroke => "stroke"
  | .all => "all"

def read? : String → Option ScaleMode
  | "none" => some .fixed
  | "stroke" => some .stroke
  | "all" => some .all
  | _ => none

def stretch (mode : ScaleMode) (scale : ZoomScale) (zoom : Nat) (size : Float) : Float :=
  if mode = .fixed then size else size * scale.factor zoom

def stretchDash (mode : ScaleMode) (scale : ZoomScale) (zoom : Nat) (size : Float) : Float :=
  if mode = .all then size * scale.factor zoom else size

end ScaleMode
end MapTheme
