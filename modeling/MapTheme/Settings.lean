import MapTheme.Zoom

/-! The settings that a theme is compiled with. -/
namespace MapTheme

/-- What is switched on in the menu of a theme: a layer, unless the menu's own choice
is to stand, and switches of overlays. -/
structure Selection where
  layer : Option String := none
  overlays : List (String × Bool) := []
deriving Repr, DecidableEq

def Selection.switch (s : Selection) (overlay : String) (enabled : Bool) : Selection :=
  { s with overlays := s.overlays.filter (·.1 ≠ overlay) ++ [(overlay, enabled)] }

/-- `ratio` is the density of the display; every size in a theme is multiplied by it. -/
structure Settings where
  ratio : Float := 1.0
  scale : ZoomScale := {}
  selection : Selection := {}

end MapTheme
