import Mathlib.Data.List.Chain
import Mathlib.Data.List.Perm.Subperm
import Mathlib.Logic.Relation
import MapTheme.Menu

/-! Where the categories of a menu come from. A layer descends from its parent, from the
parent of that and so on; a walk upwards passes each layer that the first one descends from
once, and ends also where the parents run in a circle. The categories of a selection are
those of the chosen layer, of its overlays that are on, and of all that these descend from. -/
namespace MapTheme
namespace Layer

def relisted (layer : Layer) (overlays : List String) : Layer := { layer with overlays }

@[simp] theorem id_relisted (layer : Layer) (overlays : List String) :
    (layer.relisted overlays).id = layer.id := rfl

@[simp] theorem parent_relisted (layer : Layer) (overlays : List String) :
    (layer.relisted overlays).parent = layer.parent := rfl

end Layer

namespace Menu

/-- Whether a layer names another one as its parent. Of layers with one id the first counts. -/
def Parent (m : Menu) (child parent : Layer) : Prop := child.parent.bind m.layer? = some parent

def Adds (m : Menu) (s : Selection) (layer overlay : Layer) : Prop :=
  ∃ id ∈ layer.overlays, m.layer? id = some overlay ∧
    (s.overlays.lookup id).getD overlay.enabled = true

/-- The layers of a walk that starts at an id and does not go to ids it has visited. -/
structure Walk (m : Menu) (visited : List String) (id : String) (layers : List Layer) : Prop where
  start : ∀ first ∈ layers.head?, m.layer? id = some first
  linked : layers.IsChain m.Parent
  stored : layers ⊆ m.layers
  fresh : ∀ layer ∈ layers, layer.id ∉ visited
  distinct : (layers.map (·.id)).Nodup

variable {m : Menu} {s t : Selection} {visited : List String} {id : String}
  {layer child parent above : Layer} {layers : List Layer}

private theorem layer?_id (found : m.layer? id = some layer) : m.layer? layer.id = some layer := by
  rw [(layer?_eq_some found).2]
  exact found

private theorem walk_nil : m.Walk visited id [] := by constructor <;> simp

theorem Walk.cons {name : String} (found : m.layer? id = some layer) (fresh : layer.id ∉ visited)
    (given : layer.parent = some name) (walk : m.Walk (layer.id :: visited) name layers) :
    m.Walk visited id (layer :: layers) where
  start first same := Option.some.inj same ▸ found
  linked := by
    refine List.isChain_cons.mpr ⟨fun next first => ?_, walk.linked⟩
    rw [Parent, given]
    exact walk.start next first
  stored := List.cons_subset.mpr ⟨(layer?_eq_some found).1, walk.stored⟩
  fresh := by
    intro other member
    rcases List.mem_cons.mp member with rfl | higher
    · exact fresh
    · exact fun old => walk.fresh other higher (List.mem_cons_of_mem _ old)
  distinct := by
    refine List.nodup_cons.mpr ⟨fun twice => ?_, walk.distinct⟩
    obtain ⟨other, member, same⟩ := List.mem_map.mp twice
    exact walk.fresh other member (same ▸ List.mem_cons_self)

private theorem lineage_walk (m : Menu) (visited : List String) (id : String) :
    m.Walk visited id (m.lineage visited id).1 := by
  fun_induction m.lineage visited id with
  | case1 => exact walk_nil
  | case2 => exact walk_nil
  | case3 visited id layer found fresh top =>
    constructor <;> simp [found, fresh, (layer?_eq_some found).1]
  | case4 visited id layer found fresh parent given above again walked ih =>
    rw [walked] at ih
    exact .cons found fresh given ih

theorem Walk.length_le (walk : m.Walk visited id layers) : layers.length ≤ m.layers.length := by
  have fewer := (List.subperm_of_subset walk.distinct (List.map_subset _ walk.stored)).length_le
  rwa [List.length_map, List.length_map] at fewer

theorem Walk.sound (walk : m.Walk visited id layers) (found : m.layer? id = some layer)
    (member : above ∈ layers) : Relation.ReflTransGen m.Parent layer above := by
  cases layers with
  | nil => contradiction
  | cons first rest =>
    obtain rfl : first = layer := Option.some.inj ((walk.start first rfl).symm.trans found)
    rcases List.mem_cons.mp member with rfl | higher
    · exact .refl
    · have linked := walk.linked.imp fun _ _ step => Relation.ReflTransGen.single step
      exact (List.pairwise_cons.mp linked.pairwise).1 above higher

private theorem lineage_missing (missing : m.layer? id = none) : (m.lineage visited id).1 = [] := by
  fun_cases m.lineage visited id <;> simp_all

private theorem lineage_found (found : m.layer? id = some layer) :
    (m.lineage visited id).1 =
      if layer.id ∈ visited then []
      else layer :: layer.parent.elim [] fun name => (m.lineage (layer.id :: visited) name).1 := by
  fun_cases m.lineage visited id <;> simp_all

private theorem start_mem_lineage (found : m.layer? id = some layer) (fresh : layer.id ∉ visited) :
    layer ∈ (m.lineage visited id).1 := by
  rw [lineage_found found, if_neg fresh]
  exact List.mem_cons_self

/-- A walk stops short of a parent only where it has been before. -/
theorem lineage_closed (member : child ∈ (m.lineage visited id).1)
    (step : m.Parent child parent) :
    parent ∈ (m.lineage visited id).1 ∨ parent.id ∈ visited := by
  fun_induction m.lineage visited id with
  | case1 => contradiction
  | case2 => contradiction
  | case3 visited id layer found fresh top =>
    rw [List.mem_singleton.mp member, Parent, top] at step
    contradiction
  | case4 visited id layer found fresh name given higher again walked ih =>
    rw [walked] at ih
    obtain ⟨_, _, named⟩ := Option.bind_eq_some_iff.mp step
    have next : parent ∈ higher ∨ parent.id ∈ layer.id :: visited := by
      rcases List.mem_cons.mp member with rfl | inside
      · rw [Parent, given, Option.bind_some] at step
        have reached (unseen : parent.id ∉ child.id :: visited) :
            parent ∈ (m.lineage (child.id :: visited) name).1 := start_mem_lineage step unseen
        rw [walked] at reached
        by_cases old : parent.id ∈ child.id :: visited
        · exact .inr old
        · exact .inl (reached old)
      · exact ih inside
    rcases next with passed | old
    · exact .inl (List.mem_cons_of_mem _ passed)
    · rcases List.mem_cons.mp old with same | earlier
      · -- Of one id there is but one layer to go to.
        have one := layer?_id named
        rw [same, layer?_id found] at one
        exact .inl (Option.some.inj one ▸ List.mem_cons_self)
      · exact .inr earlier

private theorem mem_lineage (found : m.layer? id = some layer) :
    above ∈ (m.lineage [] id).1 ↔ Relation.ReflTransGen m.Parent layer above := by
  constructor
  · exact (m.lineage_walk [] id).sound found
  · intro descends
    induction descends with
    | refl => exact start_mem_lineage found List.not_mem_nil
    | tail _ step ih => exact (lineage_closed ih step).resolve_right List.not_mem_nil

private theorem mem_enabledIds (m : Menu) (s : Selection) :
    id ∈ m.enabledIds s ↔ ∃ layer, (m.chosenId s).bind m.layer? = some layer ∧
      (id = layer.id ∨ id ∈ layer.overlays ∧ (m.layer? id).any (isOn s) = true) := by
  rw [enabledIds]
  cases (m.chosenId s).bind m.layer? with
  | none => simp
  | some layer => simp

private theorem mem_starts (m : Menu) (s : Selection) :
    (∃ id ∈ m.enabledIds s, m.layer? id = some child) ↔
      ∃ layer, (m.chosenId s).bind m.layer? = some layer ∧ (child = layer ∨ m.Adds s layer child) := by
  simp only [mem_enabledIds]
  constructor
  · rintro ⟨id, ⟨layer, chosen, rfl | ⟨listed, on⟩⟩, found⟩
    · obtain ⟨_, _, named⟩ := Option.bind_eq_some_iff.mp chosen
      exact ⟨layer, chosen, .inl (Option.some.inj (found.symm.trans (layer?_id named)))⟩
    · rw [found, Option.any_some, isOn, (layer?_eq_some found).2] at on
      exact ⟨layer, chosen, .inr ⟨id, listed, found, on⟩⟩
  · rintro ⟨layer, chosen, rfl | ⟨id, listed, found, on⟩⟩
    · obtain ⟨_, _, named⟩ := Option.bind_eq_some_iff.mp chosen
      exact ⟨child.id, ⟨child, chosen, .inl rfl⟩, layer?_id named⟩
    · refine ⟨id, ⟨layer, chosen, .inr ⟨listed, ?_⟩⟩, found⟩
      rwa [found, Option.any_some, isOn, (layer?_eq_some found).2]

theorem mem_categories {category : String} :
    category ∈ m.categories s ↔ ∃ start above, (∃ id ∈ m.enabledIds s, m.layer? id = some start) ∧
      Relation.ReflTransGen m.Parent start above ∧ category ∈ above.categories := by
  simp only [categories, List.mem_flatMap]
  constructor
  · rintro ⟨id, enabled, above, passed, listed⟩
    cases found : m.layer? id with
    | none =>
      rw [lineage_missing found] at passed
      contradiction
    | some start =>
      exact ⟨start, above, ⟨id, enabled, found⟩, (mem_lineage found).mp passed, listed⟩
  · rintro ⟨start, above, ⟨id, enabled, found⟩, descends, listed⟩
    exact ⟨id, enabled, above, (mem_lineage found).mpr descends, listed⟩

section Blind

private theorem enabledIds_congr (layer : t.layer = s.layer)
    (switches : ∀ layer ∈ (m.chosenId s).bind m.layer?, ∀ id ∈ layer.overlays,
      t.overlays.lookup id = s.overlays.lookup id) :
    m.enabledIds t = m.enabledIds s := by
  have same : m.chosenId t = m.chosenId s := by rw [chosenId, chosenId, layer]
  rw [enabledIds, enabledIds, same]
  cases chosen : (m.chosenId s).bind m.layer? with
  | none => rfl
  | some layer =>
    refine congrArg (layer.id :: ·) (List.filter_congr fun id listed => ?_)
    cases found : m.layer? id with
    | none => rfl
    | some overlay =>
      rw [Option.any_some, Option.any_some, isOn, isOn, (layer?_eq_some found).2,
        switches layer chosen id listed]

/-- A menu whose layers list other overlays. -/
def relisted (m : Menu) (overlays : Layer → List String) : Menu :=
  { m with layers := m.layers.map fun layer => layer.relisted (overlays layer) }

variable (overlays : Layer → List String)

private theorem layer?_relisted (m : Menu) (id : String) :
    (m.relisted overlays).layer? id =
      (m.layer? id).map fun layer => layer.relisted (overlays layer) := by
  rw [layer?, relisted, List.find?_map]
  rfl

private theorem lineage_relisted (m : Menu) (visited : List String) (id : String) :
    ((m.relisted overlays).lineage visited id).1 =
      (m.lineage visited id).1.map fun layer => layer.relisted (overlays layer) := by
  fun_induction m.lineage visited id with
  | case1 visited id missing =>
    rw [lineage_missing (by rw [layer?_relisted, missing, Option.map_none]), List.map_nil]
  | case2 visited id layer found old =>
    rw [lineage_found (by rw [layer?_relisted, found, Option.map_some]), Layer.id_relisted,
      if_pos old, List.map_nil]
  | case3 visited id layer found fresh top =>
    rw [lineage_found (by rw [layer?_relisted, found, Option.map_some]), Layer.id_relisted,
      if_neg fresh, Layer.parent_relisted, top]
    rfl
  | case4 visited id layer found fresh parent given above again walked ih =>
    rw [walked] at ih
    rw [lineage_found (by rw [layer?_relisted, found, Option.map_some]), Layer.id_relisted,
      if_neg fresh, Layer.parent_relisted, given, List.map_cons, ← ih]
    rfl

private theorem enabledIds_relisted
    (kept : ∀ layer ∈ (m.chosenId s).bind m.layer?, overlays layer = layer.overlays) :
    (m.relisted overlays).enabledIds s = m.enabledIds s := by
  have chosen : ((m.relisted overlays).chosenId s).bind (m.relisted overlays).layer? =
      ((m.chosenId s).bind m.layer?).map fun layer => layer.relisted (overlays layer) := by
    rw [Option.map_bind]
    exact congrArg (Option.bind _) (funext (layer?_relisted overlays m))
  rw [enabledIds, enabledIds, chosen]
  cases found : (m.chosenId s).bind m.layer? with
  | none => rfl
  | some layer =>
    have same : layer.relisted (overlays layer) = layer := by
      rw [kept layer found]
      rfl
    simp only [Option.map_some, same]
    refine congrArg (layer.id :: ·) (List.filter_congr fun id _ => ?_)
    rw [layer?_relisted, Option.any_map]
    rfl

theorem categories_relisted
    (kept : ∀ layer ∈ (m.chosenId s).bind m.layer?, overlays layer = layer.overlays) :
    (m.relisted overlays).categories s = m.categories s := by
  rw [categories, categories, enabledIds_relisted overlays kept]
  refine List.flatMap_congr fun id _ => ?_
  rw [lineage_relisted, List.flatMap_map]
  rfl

end Blind

/-- The categories of a selection are those listed by the layers that the chosen one and its
overlays that are on descend from. -/
theorem categories_reached (m : Menu) (s : Selection) :
    (∀ category, category ∈ m.categories s ↔ ∃ layer start above,
      (s.layer <|> m.default).bind m.layer? = some layer ∧ (start = layer ∨ m.Adds s layer start) ∧
        Relation.ReflTransGen m.Parent start above ∧ category ∈ above.categories) ∧
      (∀ id, m.Walk [] id (m.lineage [] id).1 ∧ (m.lineage [] id).1.length ≤ m.layers.length) ∧
      (∀ t : Selection, t.layer = s.layer →
        (∀ layer ∈ (m.chosenId s).bind m.layer?, ∀ id ∈ layer.overlays,
          t.overlays.lookup id = s.overlays.lookup id) →
        m.categories t = m.categories s) ∧
      ∀ overlays : Layer → List String,
        (∀ layer ∈ (m.chosenId s).bind m.layer?, overlays layer = layer.overlays) →
        (m.relisted overlays).categories s = m.categories s := by
  refine ⟨fun category => ?_, fun id => ?_, fun t layer switches => ?_, fun overlays kept => ?_⟩
  · rw [mem_categories]
    constructor
    · rintro ⟨start, above, started, descends, listed⟩
      obtain ⟨layer, chosen, starts⟩ := (mem_starts m s).mp started
      exact ⟨layer, start, above, chosen, starts, descends, listed⟩
    · rintro ⟨layer, start, above, chosen, starts, descends, listed⟩
      exact ⟨start, above, (mem_starts m s).mpr ⟨layer, chosen, starts⟩, descends, listed⟩
  · exact ⟨m.lineage_walk [] id, (m.lineage_walk [] id).length_le⟩
  · rw [categories, categories, enabledIds_congr layer switches]
  · exact categories_relisted overlays kept

def ring : Menu :=
  { default := some "streets"
    layers :=
      [{ id := "streets", parent := some "land", categories := ["roads"],
         overlays := ["trails", "shops", "ghosts"] },
        { id := "land", parent := some "water", categories := ["fields"], overlays := ["borders"] },
        { id := "water", parent := some "land", categories := ["rivers"] },
        { id := "trails", parent := some "hills", categories := ["paths"], overlays := ["borders"] },
        { id := "shops", enabled := true, categories := ["markets"] },
        { id := "borders", enabled := true, categories := ["frontiers"] },
        { id := "land", categories := ["islands"] }] }

theorem ring_reached :
    let s : Selection := { overlays := [("trails", true), ("shops", false)] }
    ring.categories s = ["roads", "fields", "rivers", "paths"] ∧
      ring.categories (s.switch "borders" false) = ring.categories s ∧
      (ring.relisted fun layer => if layer.id = "streets" then layer.overlays else ["borders"]).categories
        s = ring.categories s := by
  intro s
  refine ⟨by decide +kernel, ?_, ?_⟩
  · exact (categories_reached ring s).2.2.1 (s.switch "borders" false) rfl (by decide +kernel)
  · exact (categories_reached ring s).2.2.2 _ (by decide +kernel)
end Menu
end MapTheme
