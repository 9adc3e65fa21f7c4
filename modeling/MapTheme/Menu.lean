import MapTheme.Markup.Element
import MapTheme.Notice
import MapTheme.Settings

/-! The menu of a theme. The chosen layer enables its own categories and those of
the layers that it descends from, and so does each of its overlays that is switched
on. Of layers with one id the first counts. -/
namespace MapTheme

structure Layer where
  id : String
  parent : Option String := none
  enabled : Bool := false
  categories : List String := []
  overlays : List String := []
deriving Repr, DecidableEq

def childIds (name : String) (e : Element) : List String :=
  e.children.filterMap fun child => if child.name = name then child.get? "id" else none

def Layer.ofElement? (e : Element) : Option Layer :=
  (e.get? "id").map fun id =>
    { id
      parent := e.get? "parent"
      enabled := e.get? "enabled" = some "true"
      categories := childIds "cat" e
      overlays := childIds "overlay" e }

structure Menu where
  default : Option String := none
  layers : List Layer := []
deriving Repr, DecidableEq

namespace Menu

/-- Layers without an id are left out. -/
def ofElement (e : Element) : Menu :=
  { default := e.get? "defaultvalue"
    layers := (e.children.filter (·.name = "layer")).filterMap Layer.ofElement? }

def layer? (m : Menu) (id : String) : Option Layer := m.layers.find? (·.id = id)

theorem layer?_eq_some {m : Menu} {id : String} {layer : Layer} (h : m.layer? id = some layer) :
    layer ∈ m.layers ∧ layer.id = id :=
  ⟨List.mem_of_find?_eq_some h, by simpa using List.find?_some h⟩

def unvisited (m : Menu) (visited : List String) : List Layer :=
  m.layers.filter (·.id ∉ visited)

theorem unvisited_lt {m : Menu} {visited : List String} {layer : Layer}
    (member : layer ∈ m.layers) (fresh : layer.id ∉ visited) :
    (m.unvisited (layer.id :: visited)).length < (m.unvisited visited).length := by
  have step : m.unvisited (layer.id :: visited) =
      (m.unvisited visited).filter (·.id ≠ layer.id) := by
    simp [unvisited, List.filter_filter, List.mem_cons, not_or]
  rw [step]
  exact List.length_filter_lt_length_iff_exists.mpr
    ⟨layer, by simp [unvisited, member, fresh], by simp⟩

/-- The layers from an id upwards, each the parent of the one before, and the layer
at which they would start over. -/
def lineage (m : Menu) (visited : List String) (id : String) : List Layer × Option Layer :=
  match _found : m.layer? id with
  | none => ([], none)
  | some layer =>
    if _old : layer.id ∈ visited then ([], some layer)
    else match layer.parent with
      | none => ([layer], none)
      | some parent =>
        let (above, again) := m.lineage (layer.id :: visited) parent
        (layer :: above, again)
termination_by (m.unvisited visited).length
decreasing_by exact unvisited_lt (layer?_eq_some _found).1 _old

def chosenId (m : Menu) (s : Selection) : Option String := s.layer <|> m.default

def isOn (s : Selection) (overlay : Layer) : Bool :=
  (s.overlays.lookup overlay.id).getD overlay.enabled

/-- The ids that enable categories: that of the chosen layer, then those of its
overlays that are switched on. -/
def enabledIds (m : Menu) (s : Selection) : List String :=
  match (m.chosenId s).bind m.layer? with
  | none => []
  | some layer =>
    layer.id :: layer.overlays.filter fun id => (m.layer? id).any (isOn s)

def categories (m : Menu) (s : Selection) : List String :=
  (m.enabledIds s).flatMap fun id => (m.lineage [] id).1.flatMap (·.categories)

def notices (m : Menu) (s : Selection) : List Notice :=
  match m.chosenId s with
  | none => []
  | some id =>
    if (m.layer? id).isNone then [.layerNotFound id]
    else (m.enabledIds s).filterMap fun id =>
      (m.lineage [] id).2.map fun layer => .cyclicLayer layer.id

end Menu
end MapTheme
