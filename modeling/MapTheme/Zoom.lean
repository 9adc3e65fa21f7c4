/-! Zoom levels: the spans of levels that rules are valid in, and the growth of
sizes with the level. -/
namespace MapTheme

def maxZoom : Nat := 127

/-- The levels from `least` to `greatest`; none if they are the wrong way round. -/
structure ZoomSpan where
  least : Nat := 0
  greatest : Nat := maxZoom
deriving Repr, DecidableEq

namespace ZoomSpan

def contains (s : ZoomSpan) (zoom : Nat) : Bool := s.least ≤ zoom && zoom ≤ s.greatest

def isEmpty (s : ZoomSpan) : Bool := s.greatest < s.least

def narrow (s : ZoomSpan) (least greatest : Option Nat) : ZoomSpan :=
  ⟨least.elim s.least (max s.least), greatest.elim s.greatest (min s.greatest)⟩

def text (s : ZoomSpan) : String := toString s.least ++ "-" ++ toString s.greatest

theorem contains_narrow (s : ZoomSpan) (least greatest : Option Nat) (zoom : Nat) :
    (s.narrow least greatest).contains zoom =
      (s.contains zoom && least.all (· ≤ zoom) && greatest.all (zoom ≤ ·)) := by
  rw [Bool.eq_iff_iff]
  cases least <;> cases greatest <;> grind [contains, narrow]

end ZoomSpan

/-- `x ^ n` by repeated squaring, times `done`. -/
def powerFrom (done x : Float) (n : Nat) : Float :=
  let done := if n % 2 = 1 then done * x else done
  if n / 2 = 0 then done else powerFrom done (x * x) (n / 2)
termination_by n
decreasing_by omega

/-- Sizes are given for a reference level and grow by a factor with each level above
it; below it they keep the size they have there. -/
structure ZoomScale where
  reference : Nat := 12
  step : Float := 1.5

def ZoomScale.factor (s : ZoomScale) (zoom : Nat) : Float :=
  if zoom ≤ s.reference then 1.0 else powerFrom 1.0 s.step (zoom - s.reference)

end MapTheme
