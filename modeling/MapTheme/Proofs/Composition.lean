import MapTheme.Proofs.Admission

/-! Selectors that are composed step by step. A step narrows what the selector before it
accepts by all that it declares, so a composed selector asks of a feature what each of its
steps asks for, and the order in which they were taken is in none of its answers. -/
namespace MapTheme

/-- A step by which a selector is narrowed. -/
inductive Narrowing where
  | rule (declared : Declared)
  | geometry (geometry : Geometry)
  | outline (outline : Outline)
  | zooms (least greatest : Nat)
  | filter (filter : TagFilter)
deriving DecidableEq

namespace Narrowing

def apply (s : Selector) : Narrowing → Selector
  | .rule d => s.refine d
  | .geometry g => s.narrowGeometry g
  | .outline o => s.narrowOutline o
  | .zooms least greatest => s.narrowZooms (some least) (some greatest)
  | .filter f => s.addFilter f

def declared : Narrowing → Declared
  | .rule d => d
  | .geometry g => { geometry := some g }
  | .outline o => { outline := some o }
  | .zooms least greatest => { least := some least, greatest := some greatest }
  | .filter f => { filter := some f }

/-- Every step does what a rule does that declares the same. -/
theorem apply_eq_refine (s : Selector) (n : Narrowing) : n.apply s = s.refine n.declared := by
  have geometry (s : Selector) : s.narrowGeometry .any = s := by
    obtain ⟨g, o, z, filters⟩ := s
    cases g <;> rfl
  have outline (s : Selector) : s.narrowOutline .any = s := by
    obtain ⟨g, o, z, filters⟩ := s
    cases o <;> rfl
  have zooms (s : Selector) : s.narrowZooms none none = s := rfl
  cases n with
  | rule d => rfl
  | geometry g => simp [apply, declared, Selector.refine, outline, zooms]
  | outline o => simp [apply, declared, Selector.refine, geometry, zooms]
  | zooms least greatest => simp [apply, declared, Selector.refine, geometry, outline]
  | filter f => simp [apply, declared, Selector.refine, geometry, outline, zooms]

variable (steps : List Narrowing)

/-- Whether a level that there is lies within all bounds. -/
def Levels (zoom : Nat) : Prop :=
  zoom ≤ maxZoom ∧ ∀ n ∈ steps,
    (∀ least ∈ n.declared.least, least ≤ zoom) ∧ ∀ greatest ∈ n.declared.greatest, zoom ≤ greatest

def Kinds (kind : Kind) : Prop :=
  ∀ n ∈ steps, ∀ geometry ∈ n.declared.geometry, geometry.accepts kind = true

def Outlines (closed : Bool) : Prop :=
  ∀ n ∈ steps, ∀ outline ∈ n.declared.outline, outline.accepts closed = true

/-- Whether tags pass all filters, those included that a selector does not keep. -/
def Filters (tags : List Tag) : Prop :=
  ∀ n ∈ steps, ∀ filter ∈ n.declared.filter, filter.accepts tags = true

end Narrowing

namespace Selector
open Narrowing

/-- The selector of steps that are taken one after the other. -/
def compose (steps : List Narrowing) : Selector := steps.foldl Narrowing.apply {}

variable (steps : List Narrowing) (zoom : Nat) (kind : Kind) (closed : Bool) (tags : List Tag)

private theorem compose_eq_foldl :
    compose steps = (steps.map Narrowing.declared).foldl Selector.refine {} := by
  have same : Narrowing.apply = fun s n => s.refine n.declared :=
    funext fun s => funext (apply_eq_refine s)
  rw [compose, same, List.foldl_map]

private theorem containsZoom_compose :
    (compose steps).containsZoom zoom = true ↔ Levels steps zoom := by
  have run := foldl_asks (containsZoom · zoom) (containsZoom_refine · · zoom) {}
    (steps.map Narrowing.declared)
  have start : ({} : Selector).containsZoom zoom = decide (zoom ≤ maxZoom) := by
    simp [containsZoom, ZoomSpan.contains]
  rw [compose_eq_foldl, run, start]
  simp [Levels, Option.all_eq_true]

private theorem acceptsKind_compose :
    (compose steps).geometry.accepts kind = true ↔ Kinds steps kind := by
  have run := foldl_asks (fun s : Selector => s.geometry.accepts kind)
    (acceptsKind_refine · · kind) {} (steps.map Narrowing.declared)
  rw [compose_eq_foldl, run]
  simp [Kinds, Geometry.accepts, Option.all_eq_true]

private theorem acceptsOutline_compose :
    (compose steps).outline.accepts closed = true ↔ Outlines steps closed := by
  have run := foldl_asks (fun s : Selector => s.outline.accepts closed)
    (acceptsOutline_refine · · closed) {} (steps.map Narrowing.declared)
  rw [compose_eq_foldl, run]
  simp [Outlines, Outline.accepts, Option.all_eq_true]

private theorem acceptsTags_compose :
    (compose steps).acceptsTags tags = true ↔ Filters steps tags := by
  have run := foldl_asks (acceptsTags · tags) (acceptsTags_refine · · tags) {}
    (steps.map Narrowing.declared)
  rw [compose_eq_foldl, run]
  simp [Filters, acceptsTags, Option.all_eq_true]

theorem accepts_compose :
    (compose steps).accepts zoom kind closed tags = true ↔
      Levels steps zoom ∧ Kinds steps kind ∧ (kind = .way → Outlines steps closed) ∧
        Filters steps tags := by
  have asked : (decide (kind = .node) || (compose steps).outline.accepts closed) = true ↔
      (kind = .way → Outlines steps closed) := by
    rw [← acceptsOutline_compose]
    cases kind <;> simp
  rw [accepts, Bool.and_eq_true, Bool.and_eq_true, Bool.and_eq_true, asked, containsZoom_compose,
    acceptsKind_compose, acceptsTags_compose, and_assoc, and_assoc]

theorem acceptsWay_compose :
    (compose steps).acceptsWay closed tags = true ↔
      Kinds steps .way ∧ Outlines steps closed ∧ Filters steps tags := by
  rw [acceptsWay, Bool.and_eq_true, Bool.and_eq_true, acceptsKind_compose, acceptsOutline_compose,
    acceptsTags_compose, and_assoc]

theorem acceptsNode_compose :
    (compose steps).acceptsNode tags = true ↔ Kinds steps .node ∧ Filters steps tags := by
  rw [acceptsNode, Bool.and_eq_true, acceptsKind_compose, acceptsTags_compose]

theorem acceptsWayAt_compose :
    (compose steps).acceptsWayAt zoom closed tags = true ↔
      Levels steps zoom ∧ Kinds steps .way ∧ Outlines steps closed ∧ Filters steps tags := by
  rw [acceptsWayAt, accepts_compose]
  simp

theorem acceptsNodeAt_compose :
    (compose steps).acceptsNodeAt zoom tags = true ↔
      Levels steps zoom ∧ Kinds steps .node ∧ Filters steps tags := by
  rw [acceptsNodeAt, accepts_compose]
  simp

/-- Whether one selector accepts nothing, of whatever it may be asked, that another one
rejects. -/
structure Within (inner outer : Selector) : Prop where
  accepts : ∀ zoom kind closed tags,
    inner.accepts zoom kind closed tags = true → outer.accepts zoom kind closed tags = true
  containsZoom : ∀ zoom, inner.containsZoom zoom = true → outer.containsZoom zoom = true
  acceptsTags : ∀ tags, inner.acceptsTags tags = true → outer.acceptsTags tags = true
  acceptsWay : ∀ closed tags,
    inner.acceptsWay closed tags = true → outer.acceptsWay closed tags = true
  acceptsWayAt : ∀ zoom closed tags,
    inner.acceptsWayAt zoom closed tags = true → outer.acceptsWayAt zoom closed tags = true
  acceptsNode : ∀ tags, inner.acceptsNode tags = true → outer.acceptsNode tags = true
  acceptsNodeAt : ∀ zoom tags,
    inner.acceptsNodeAt zoom tags = true → outer.acceptsNodeAt zoom tags = true

variable {steps} {more : List Narrowing}

/-- More steps accept less, wherever among the others they are taken. -/
theorem within_of_subset (kept : steps ⊆ more) : (compose more).Within (compose steps) := by
  -- A demand that all steps make is made by some of them too.
  have levels (zoom : Nat) (all : Levels more zoom) : Levels steps zoom :=
    ⟨all.1, fun n member => all.2 n (kept member)⟩
  have kinds (kind : Kind) (all : Kinds more kind) : Kinds steps kind :=
    fun n member => all n (kept member)
  have outlines (closed : Bool) (all : Outlines more closed) : Outlines steps closed :=
    fun n member => all n (kept member)
  have filters (tags : List Tag) (all : Filters more tags) : Filters steps tags :=
    fun n member => all n (kept member)
  constructor
  · intro zoom kind closed tags accepted
    rw [accepts_compose] at accepted ⊢
    obtain ⟨level, suited, outlined, tagged⟩ := accepted
    exact ⟨levels _ level, kinds _ suited, fun way => outlines _ (outlined way), filters _ tagged⟩
  · intro zoom accepted
    rw [containsZoom_compose] at accepted ⊢
    exact levels _ accepted
  · intro tags accepted
    rw [acceptsTags_compose] at accepted ⊢
    exact filters _ accepted
  · intro closed tags accepted
    rw [acceptsWay_compose] at accepted ⊢
    exact ⟨kinds _ accepted.1, outlines _ accepted.2.1, filters _ accepted.2.2⟩
  · intro zoom closed tags accepted
    rw [acceptsWayAt_compose] at accepted ⊢
    obtain ⟨level, suited, outlined, tagged⟩ := accepted
    exact ⟨levels _ level, kinds _ suited, outlines _ outlined, filters _ tagged⟩
  · intro tags accepted
    rw [acceptsNode_compose] at accepted ⊢
    exact ⟨kinds _ accepted.1, filters _ accepted.2⟩
  · intro zoom tags accepted
    rw [acceptsNodeAt_compose] at accepted ⊢
    exact ⟨levels _ accepted.1, kinds _ accepted.2.1, filters _ accepted.2.2⟩

/-- A composed selector accepts what all of its steps accept, in whatever order they are taken,
and each further step can only make that less. -/
theorem compose_demands (steps : List Narrowing) :
    let s := compose steps
    (∀ zoom kind closed tags, s.accepts zoom kind closed tags = true ↔
      Levels steps zoom ∧ Kinds steps kind ∧ (kind = .way → Outlines steps closed) ∧
        Filters steps tags) ∧
    (∀ zoom, s.containsZoom zoom = true ↔ Levels steps zoom) ∧
    (∀ tags, s.acceptsTags tags = true ↔ Filters steps tags) ∧
    (∀ closed tags, s.acceptsWay closed tags = true ↔
      Kinds steps .way ∧ Outlines steps closed ∧ Filters steps tags) ∧
    (∀ zoom closed tags, s.acceptsWayAt zoom closed tags = true ↔
      Levels steps zoom ∧ Kinds steps .way ∧ Outlines steps closed ∧ Filters steps tags) ∧
    (∀ tags, s.acceptsNode tags = true ↔ Kinds steps .node ∧ Filters steps tags) ∧
    (∀ zoom tags, s.acceptsNodeAt zoom tags = true ↔
      Levels steps zoom ∧ Kinds steps .node ∧ Filters steps tags) ∧
    (∀ n : Narrowing, (n.apply s).Within s) ∧
    ∀ others : List Narrowing, others.Perm steps →
      (compose others).Within s ∧ s.Within (compose others) := by
  refine ⟨accepts_compose steps, containsZoom_compose steps, acceptsTags_compose steps,
    acceptsWay_compose steps, acceptsWayAt_compose steps, acceptsNode_compose steps,
    acceptsNodeAt_compose steps, fun n => ?_, fun others reordered => ⟨?_, ?_⟩⟩
  · have last : compose (steps ++ [n]) = n.apply (compose steps) := by
      rw [compose, List.foldl_append]
      rfl
    rw [← last]
    exact within_of_subset (List.subset_append_left steps [n])
  · exact within_of_subset reordered.symm.subset
  · exact within_of_subset reordered.subset

/-- Footways at high levels, with a demand for any kind that takes nothing back. -/
def footways : List Narrowing :=
  [.geometry .way, .zooms 14 18,
    .rule { outline := some .unclosed, filter := some ⟨[.key 1], [.exact "footway"], false⟩ },
    .geometry .any]

theorem footways_reordered :
    footways.reverse.Perm footways ∧
      (compose footways.reverse).Within (compose footways) ∧
      (compose footways.reverse).accepts 15 .way false [⟨1, "footway"⟩] = true := by
  have reordered : footways.reverse.Perm footways := List.reverse_perm footways
  obtain ⟨_, _, _, _, _, _, _, _, order⟩ := compose_demands footways
  have drawn : (compose footways).accepts 15 .way false [⟨1, "footway"⟩] = true := by decide
  obtain ⟨less, more⟩ := order footways.reverse reordered
  exact ⟨reordered, less, more.accepts _ _ _ _ drawn⟩

end Selector
end MapTheme
