import Mathlib.Data.List.Forall2
import MapTheme.Proofs.Separation

/-! Where the entries of a sheet come from. Each is drawn at one place of the theme, and a
list holds what is drawn at its places, in document order before it is sorted. So two sheets
of one theme can be compared entry by entry, however many instructions the one has between
the entries of the other. -/
namespace MapTheme

/-- A place of a theme with its number among all of them. -/
abbrev Spot := Place × Nat

/-- An entry of a list with its place in the theme instead of its index. -/
structure Traced (α : Type) where
  source : Option Spot
  selector : Selector
  order : Int
  drawing : α

def Traced.Twins {α : Type} (alike : Element → α → α → Prop) (x y : Traced α) : Prop :=
  ∃ spot, x.source = some spot ∧ y.source = some spot ∧ x.selector = y.selector ∧
    x.order = y.order ∧ alike spot.1.element x.drawing y.drawing

section Sorting

variable {α : Type} {key : α → Int} {R : α → α → Prop}

private theorem insertBy_related (keys : ∀ a b, R a b → key a = key b) {a b : α} {as bs : List α}
    (same : R a b) (others : List.Forall₂ R as bs) :
    List.Forall₂ R (insertBy key a as) (insertBy key b bs) := by
  induction others with
  | nil => exact .cons same .nil
  | cons first rest ih =>
    rw [insertBy, insertBy, keys _ _ same, keys _ _ first]
    split
    · exact .cons same (.cons first rest)
    · exact .cons first ih

private theorem sortBy_related (keys : ∀ a b, R a b → key a = key b) {as bs : List α}
    (same : List.Forall₂ R as bs) : List.Forall₂ R (sortBy key as) (sortBy key bs) := by
  induction same with
  | nil => exact .nil
  | cons first _ ih => exact insertBy_related keys first ih

theorem filter_related {keep : α → Bool} (kept : ∀ a b, R a b → keep a = keep b)
    {as bs : List α} (same : List.Forall₂ R as bs) :
    List.Forall₂ R (as.filter keep) (bs.filter keep) :=
  List.rel_filter (fun a b pair => by simp only [kept a b pair]) same

end Sorting

namespace Element

def spots (root : Element) : List Spot := root.descendants.zipIdx

end Element

namespace Workshop
open Sheet

variable {α β γ : Type} (w v : Workshop) (root : Element) {generation other : Nat}

/-- The places at which something is drawn. -/
def sources : List Spot := root.spots.filter fun spot => (w.drawnAt? spot.1).isSome

def source? (p : Placed α) : Option Spot := (w.sources root)[p.index]?

def isShapeAt (p : Place) : Bool := (w.drawnAt? p).any (·.2.isShape)

def advance (next : Nat) (p : Place) : Nat := if w.isShapeAt p then next + 1 else next

def instructionAt? (next : Nat) (p : Place) : Option Instruction :=
  (w.drawnAt? p).map fun drawn => ⟨drawn.1, drawn.2, drawn.2.priority?.getD next⟩

/-- The instructions of places, each with the place that it is drawn at. -/
def trace (next : Nat) : List Spot → List (Spot × Instruction)
  | [] => []
  | spot :: spots =>
    ((w.instructionAt? next spot.1).map (spot, ·)).toList ++ trace (w.advance next spot.1) spots

private theorem trace_sources (next : Nat) (spots : List Spot) :
    (w.trace next spots).map Prod.fst = spots.filter fun spot => (w.drawnAt? spot.1).isSome := by
  induction spots generalizing next with
  | nil => rfl
  | cons spot spots ih =>
    rw [trace, List.map_append, ih, List.filter_cons, instructionAt?]
    cases w.drawnAt? spot.1 <;> rfl

private theorem trace_instructions (next : Nat) (spots : List Spot) :
    (w.trace next spots).map Prod.snd =
      arrange next (((spots.map Prod.fst).filterMap w.drawnAt?).map
        fun drawn => .drawn drawn.1 drawn.2) := by
  induction spots generalizing next with
  | nil => rfl
  | cons spot spots ih =>
    rw [trace, List.map_append, ih, instructionAt?, advance, isShapeAt, List.map_cons]
    cases drawn : w.drawnAt? spot.1 with
    | none =>
      rw [List.filterMap_cons_none drawn]
      rfl
    | some found =>
      rw [List.filterMap_cons_some drawn, List.map_cons, arrange]
      cases given : found.2.priority? with
      | none => simp [Drawing.isShape, given]
      | some priority => simp [Drawing.isShape, given]

theorem trace_arranged :
    (w.trace 0 root.spots).map Prod.snd = arrange 0 (w.themeFindings root) := by
  rw [trace_instructions, Element.spots, List.zipIdx_map_fst, ← drawn_themeFindings, ← arrange_drawn]

private theorem trace_drawn {next : Nat} {spots : List Spot} {t : Spot × Instruction}
    (member : t ∈ w.trace next spots) :
    w.drawnAt? t.1.1 = some (t.2.selector, t.2.drawing) := by
  induction spots generalizing next with
  | nil => contradiction
  | cons spot spots ih =>
    rw [trace, List.mem_append] at member
    rcases member with here | later
    · obtain ⟨i, given, rfl⟩ := Option.map_eq_some_iff.mp (Option.mem_toList.mp here)
      obtain ⟨drawn, found, rfl⟩ := Option.map_eq_some_iff.mp given
      exact found
    · exact ih later

/-- An entry is what is drawn at its source. -/
theorem source_drawn {pick : Selector → Drawing → Option α} {p : Placed α}
    (member : p ∈ gather generation pick (arrange 0 (w.themeFindings root))) :
    ∃ spot drawing, w.source? root p = some spot ∧ spot ∈ root.spots ∧
      w.drawnAt? spot.1 = some (p.selector, drawing) ∧ pick p.selector drawing = some p.drawing := by
  obtain ⟨_, i, stored, selector, _, picked⟩ := mem_gather member
  have traced : ((w.trace 0 root.spots).map Prod.snd)[p.index]? = some i := by
    rw [trace_arranged, stored]
  rw [List.getElem?_map, Option.map_eq_some_iff] at traced
  obtain ⟨t, found, rfl⟩ := traced
  have source : w.source? root p = some t.1 := by
    rw [source?, sources, ← w.trace_sources 0, List.getElem?_map, found]
    rfl
  have inside : t.1 ∈ root.spots :=
    (List.mem_filter.mp (List.mem_of_getElem? source)).1
  have drawn := w.trace_drawn (List.mem_of_getElem? found)
  rw [selector] at drawn picked
  exact ⟨t.1, t.2.drawing, source, inside, drawn, picked⟩

def tracedAt? (pick : Selector → Drawing → Option α) (keep : Spot → Bool) (spot : Spot)
    (i : Instruction) : Option (Traced α) :=
  if keep spot then (pick i.selector i.drawing).map (⟨some spot, i.selector, i.order, ·⟩) else none

def traced (p : Placed α) : Traced α := ⟨w.source? root p, p.selector, p.order, p.drawing⟩

/-- The entries of a list are what is drawn at the places of the theme that it picks. -/
theorem traced_gather (pick : Selector → Drawing → Option α) :
    (gather generation pick (arrange 0 (w.themeFindings root))).map (w.traced root) =
      (w.trace 0 root.spots).filterMap fun t => tracedAt? pick (fun _ => true) t.1 t.2 := by
  have sources : (w.trace 0 root.spots).map Prod.fst = w.sources root := w.trace_sources 0 _
  let read (t : Spot × Instruction) : Option (Traced α) := tracedAt? pick (fun _ => true) t.1 t.2
  have indexed : (w.trace 0 root.spots).filterMap read =
      (w.trace 0 root.spots).zipIdx.filterMap (read ∘ Prod.fst) := by
    rw [← List.filterMap_map, List.zipIdx_map_fst]
  rw [← trace_arranged, gather, List.zipIdx_map, List.filterMap_map, List.map_filterMap]
  refine .trans (List.filterMap_congr fun t member => ?_) indexed.symm
  obtain ⟨⟨spot, i⟩, index⟩ := t
  have here : (w.sources root)[index]? = some spot := by
    rw [← sources, List.getElem?_map, List.mem_zipIdx_iff_getElem?.mp member]
    rfl
  simp only [Function.comp_apply, read, tracedAt?, Prod.map, id, Option.map_map, if_true]
  refine congrArg (Option.map · _) (funext fun x => ?_)
  rw [Function.comp_apply, Workshop.traced, source?, here]

private theorem traced_kept (pick : Selector → Drawing → Option α) (keep : Spot → Bool) :
    ((gather generation pick (arrange 0 (w.themeFindings root))).filter
        fun p => (w.source? root p).any keep).map (w.traced root) =
      (w.trace 0 root.spots).filterMap fun t => tracedAt? pick keep t.1 t.2 := by
  have kept : (fun p : Placed α => (w.source? root p).any keep) =
      (fun x : Traced α => x.source.any keep) ∘ w.traced root := rfl
  rw [kept, ← List.filter_map, traced_gather, List.filter_filterMap]
  refine List.filterMap_congr fun t _ => ?_
  rw [tracedAt?, tracedAt?, if_pos rfl]
  cases found : keep t.1 <;> cases pick t.2.selector t.2.drawing <;> simp [Option.filter, found]

/-- What is kept of a list are the places that are kept and have something to pick. -/
theorem trace_kept (pick : Selector → Drawing → Option α) (keep : Spot → Bool) (next : Nat)
    (spots : List Spot) :
    ((w.trace next spots).filterMap fun t => tracedAt? pick keep t.1 t.2).filterMap Traced.source =
      spots.filter fun spot =>
        keep spot && ((w.drawnAt? spot.1).bind fun drawn => pick drawn.1 drawn.2).isSome := by
  induction spots generalizing next with
  | nil => rfl
  | cons spot spots ih =>
    rw [trace, List.filterMap_append, List.filterMap_append, ih, List.filter_cons, instructionAt?]
    cases w.drawnAt? spot.1 with
    | none => simp
    | some drawn =>
      cases kept : keep spot <;> cases picked : pick drawn.1 drawn.2 <;>
        simp [tracedAt?, kept, picked]

theorem sources_kept (pick : Selector → Drawing → Option α) (keep : Spot → Bool) :
    ((gather generation pick (arrange 0 (w.themeFindings root))).filter
        fun p => (w.source? root p).any keep).filterMap (w.source? root) =
      root.spots.filter fun spot =>
        keep spot && ((w.drawnAt? spot.1).bind fun drawn => pick drawn.1 drawn.2).isSome := by
  rw [← trace_kept w pick keep 0, ← traced_kept, List.filterMap_map]
  rfl

variable {w v root}

/-- Entries of the same place, with the same rules and the same order, that are alike as
entries of this place. -/
def Twins (w v : Workshop) (root : Element) (alike : Element → α → α → Prop) (p q : Placed α) :
    Prop :=
  (w.traced root p).Twins alike (v.traced root q)

theorem twins_selector {alike : Element → α → α → Prop} {p q : Placed α}
    (twins : w.Twins v root alike p q) : p.selector = q.selector := by
  obtain ⟨_, _, _, selector, _, _⟩ := twins
  exact selector

private theorem twins_order {alike : Element → α → α → Prop} {p q : Placed α}
    (twins : w.Twins v root alike p q) : p.order = q.order := by
  obtain ⟨_, _, _, _, order, _⟩ := twins
  exact order

theorem twins_sortBy {alike : Element → α → α → Prop} {ps qs : List (Placed α)}
    (twins : List.Forall₂ (w.Twins v root alike) ps qs) :
    List.Forall₂ (w.Twins v root alike) (sortBy (·.order) ps) (sortBy (·.order) qs) :=
  sortBy_related (R := w.Twins v root alike) (fun _ _ => twins_order) twins

private theorem twins_traced {alike : Element → α → α → Prop} {ps qs : List (Placed α)} :
    List.Forall₂ (w.Twins v root alike) ps qs ↔
      List.Forall₂ (Traced.Twins alike) (ps.map (w.traced root)) (qs.map (v.traced root)) := by
  rw [List.forall₂_map_left_iff, List.forall₂_map_right_iff]
  rfl

/-- What is drawn at each place on its own decides how two traces compare. -/
theorem trace_related {R : β → β → Prop} {f : Spot → Instruction → Option β}
    (shapes : ∀ p, w.isShapeAt p = v.isShapeAt p)
    (related : ∀ spot next, Option.Rel R ((w.instructionAt? next spot.1).bind (f spot))
      ((v.instructionAt? next spot.1).bind (f spot))) (next : Nat) (spots : List Spot) :
    List.Forall₂ R ((w.trace next spots).filterMap fun t => f t.1 t.2)
      ((v.trace next spots).filterMap fun t => f t.1 t.2) := by
  have first (spot : Spot) (o : Option Instruction) :
      (o.map (spot, ·)).toList.filterMap (fun t => f t.1 t.2) = (o.bind (f spot)).toList := by
    cases o with
    | none => rfl
    | some i => cases told : f spot i <;> simp [told]
  have alone {x y : Option β} (pair : Option.Rel R x y) : List.Forall₂ R x.toList y.toList := by
    cases pair with
    | none => exact .nil
    | some same => exact .cons same .nil
  -- Shapes are drawn at the same places, so that the next number stays common to both.
  induction spots generalizing next with
  | nil => exact .nil
  | cons spot spots ih =>
    have advance : w.advance next spot.1 = v.advance next spot.1 := by
      rw [Workshop.advance, Workshop.advance, shapes]
    rw [trace, trace, List.filterMap_append, List.filterMap_append, first, first, advance]
    exact List.rel_append (alone (related spot next)) (ih _)

private theorem rel_map {α β γ δ : Type} {R : α → β → Prop} {S : γ → δ → Prop} {x : Option α}
    {y : Option β} {f : α → γ} {g : β → δ} (pair : Option.Rel R x y)
    (related : ∀ a b, R a b → S (f a) (g b)) : Option.Rel S (x.map f) (y.map g) := by
  cases pair with
  | none => exact .none
  | some same => exact .some (related _ _ same)

section
variable {pick : Selector → Drawing → Option α} {keep : Spot → Bool} {order : Nat → α → Int}
  {alike : Element → α → α → Prop} (selectors : w.selector = v.selector)
  (categories : w.categories = v.categories)
  (ordered : ∀ s d x, pick s d = some x → ∀ next : Nat, d.priority?.getD next = order next x)
  (sameOrder : ∀ e x y, alike e x y → ∀ next, order next x = order next y)
  (related : ∀ (s : Selector) (spot : Spot), keep spot = true →
    Option.Rel (alike spot.1.element) ((w.drawing? s spot.1.element).bind (pick s))
      ((v.drawing? s spot.1.element).bind (pick s)))
include selectors categories ordered sameOrder related

private theorem instruction_related (spot : Spot) (next : Nat) :
    Option.Rel (Traced.Twins alike) ((w.instructionAt? next spot.1).bind (tracedAt? pick keep spot))
      ((v.instructionAt? next spot.1).bind (tracedAt? pick keep spot)) := by
  obtain ⟨p, number⟩ := spot
  have nothing (u : Workshop) (unreached : p.reached u.categories = false) :
      (u.instructionAt? next p).bind (tracedAt? pick keep (p, number)) = none := by
    simp [instructionAt?, drawnAt?, unreached]
  have drawn (u : Workshop) (reached : p.reached u.categories = true)
      (kept : keep (p, number) = true) :
      (u.instructionAt? next p).bind (tracedAt? pick keep (p, number)) =
        ((u.drawing? (u.selector p.trail) p.element).bind (pick (u.selector p.trail))).map
          fun x => ⟨some (p, number), u.selector p.trail, order next x, x⟩ := by
    rw [instructionAt?, drawnAt?, if_pos reached]
    cases u.drawing? (u.selector p.trail) p.element with
    | none => rfl
    | some d =>
      simp only [Option.map_some, Option.bind_some, tracedAt?, if_pos kept]
      cases picked : pick (u.selector p.trail) d with
      | none => rfl
      | some x => simp only [Option.map_some, ordered _ _ _ picked next]
  -- Either both sides leave the spot out, or both hold what is drawn there.
  cases kept : keep (p, number) with
  | false =>
    have dropped (o : Option Instruction) : o.bind (tracedAt? pick keep (p, number)) = none := by
      cases o <;> simp [tracedAt?, kept]
    rw [dropped, dropped]
    exact .none
  | true =>
    cases reached : p.reached w.categories with
    | false =>
      have alsoUnreached : p.reached v.categories = false := by rw [← categories, reached]
      rw [nothing w reached, nothing v alsoUnreached]
      exact .none
    | true =>
      have alsoReached : p.reached v.categories = true := by rw [← categories, reached]
      have pair := related (w.selector p.trail) (p, number) kept
      rw [drawn w reached kept, drawn v alsoReached kept, ← selectors]
      exact rel_map pair fun x y same =>
        ⟨(p, number), rfl, rfl, rfl, sameOrder _ _ _ same next, same⟩

theorem kept_twins (shapes : ∀ p, w.isShapeAt p = v.isShapeAt p) :
    List.Forall₂ (w.Twins v root alike)
      ((gather generation pick (arrange 0 (w.themeFindings root))).filter
        fun p => (w.source? root p).any keep)
      ((gather other pick (arrange 0 (v.themeFindings root))).filter
        fun p => (v.source? root p).any keep) := by
  rw [twins_traced, traced_kept, traced_kept]
  exact trace_related shapes
    (instruction_related selectors categories ordered sameOrder related) 0 root.spots

end

theorem gather_twins {pick : Selector → Drawing → Option α} {order : Nat → α → Int}
    {alike : Element → α → α → Prop} (selectors : w.selector = v.selector)
    (categories : w.categories = v.categories) (shapes : ∀ p, w.isShapeAt p = v.isShapeAt p)
    (ordered : ∀ s d x, pick s d = some x → ∀ next : Nat, d.priority?.getD next = order next x)
    (sameOrder : ∀ e x y, alike e x y → ∀ next, order next x = order next y)
    (related : ∀ s e, Option.Rel (alike e) ((w.drawing? s e).bind (pick s))
      ((v.drawing? s e).bind (pick s))) :
    List.Forall₂ (w.Twins v root alike)
      (gather generation pick (arrange 0 (w.themeFindings root)))
      (gather other pick (arrange 0 (v.themeFindings root))) := by
  rw [twins_traced, traced_gather, traced_gather]
  exact trace_related shapes (instruction_related selectors categories ordered sameOrder
    fun s spot _ => related s spot.1.element) 0 root.spots

end Workshop
end MapTheme
