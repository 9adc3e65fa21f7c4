import MapTheme.Proofs.Listing
import MapTheme.Proofs.Representation

/-! The order of what queries return. Lines, areas and circles are numbered without a gap
in document order and come by their numbers; labels and symbols come by priority, and
those of one list that are equal in it in document order. The labels of a closed way are
of two lists: where a caption and a text along the way are equal, the caption comes
first, wherever the two stand in the document. -/
namespace MapTheme

section Sorting

variable {α : Type} {key : α → Int} {earlier : α → α → Prop}

/-- Whether two things stand as a relation demands it of those that have the same key. -/
def Tied (key : α → Int) (earlier : α → α → Prop) (a b : α) : Prop := key a = key b → earlier a b

private theorem insertBy_tied {a : α} {bs : List α} (first : ∀ b ∈ bs, Tied key earlier a b)
    (rest : bs.Pairwise (Tied key earlier)) : (insertBy key a bs).Pairwise (Tied key earlier) := by
  induction bs with
  | nil => exact List.pairwise_singleton _ a
  | cons b bs ih =>
    obtain ⟨after, others⟩ := List.pairwise_cons.mp rest
    rw [insertBy]
    split
    · exact List.pairwise_cons.mpr ⟨first, rest⟩
    · next high =>
      have tail := ih (fun c member => first c (List.mem_cons_of_mem _ member)) others
      refine List.pairwise_cons.mpr ⟨fun c member => ?_, tail⟩
      rcases List.mem_cons.mp ((insertBy_perm a bs).mem_iff.mp member) with rfl | inside
      · -- What is put before `a` comes strictly before it in the order.
        intro equal
        omega
      · exact after c inside

/-- Sorting leaves what has the same key as it stood. -/
theorem sortBy_tied {as : List α} (tied : as.Pairwise (Tied key earlier)) :
    (sortBy key as).Pairwise (Tied key earlier) := by
  induction as with
  | nil => exact .nil
  | cons a as ih =>
    obtain ⟨first, rest⟩ := List.pairwise_cons.mp tied
    exact insertBy_tied (fun b member => first b (mem_sortBy.mp member)) (ih rest)

end Sorting

namespace Sheet

variable {α : Type} {generation : Nat} {pick : Selector → Drawing → Option α}
  {instructions : List Instruction}

private theorem collect_tied :
    (collect generation pick instructions).Pairwise (Tied (·.order) (·.index < ·.index)) := by
  have document : (gather generation pick instructions).Pairwise
      (Tied (·.order) (·.index < ·.index)) := by
    refine (gather_indices instructions).imp ?_
    intro p q less _
    exact less
  exact sortBy_tied document

/-- The numbers of a list of paths or circles are those of the instructions it is made of. -/
theorem gather_numbers (choose : Drawing → Option α) (instructions : List Instruction) :
    (gather generation (fun _ => choose) instructions).map (·.order) =
      (instructions.filter fun i => (choose i.drawing).isSome).map (·.order) := by
  have told : (gather generation (fun _ => choose) instructions).filterMap (fun p => some p.order) =
      instructions.filterMap fun i => (choose i.drawing).bind fun _ => some i.order :=
    filterMap_gather (fun _ order _ => some order) instructions
  rw [map_filter, ← List.filterMap_eq_map']
  refine told.trans (List.filterMap_congr fun i _ => ?_)
  cases choose i.drawing <;> rfl

/-- The numbers and priorities of what handles name. -/
def orders (s : Sheet) (handles : List Handle) : List Int :=
  handles.filterMap fun h => (s.get? h).map (·.order)

private theorem orders_listed (pick : Selector → Drawing → Option α) (o : Output)
    (picks : ∀ s d, (pick s d).isSome = o.picks s d) :
    (ofInstructions generation instructions).orders
        ((ofInstructions generation instructions).listed o) =
      (collect generation pick instructions).map (·.order) := by
  rw [listed_ofInstructions pick o picks, orders, List.filterMap_map, ← List.filterMap_eq_map']
  refine List.filterMap_congr fun p member => ?_
  obtain ⟨i, resolved, _, order, _⟩ := get?_gather pick (mem_sortBy.mp member)
  rw [Function.comp_apply, resolved, Option.map_some, order]

private theorem length_orders (pick : Selector → Drawing → Option α) (o : Output)
    (picks : ∀ s d, (pick s d).isSome = o.picks s d) :
    ((ofInstructions generation instructions).orders
        ((ofInstructions generation instructions).listed o)).length =
      ((ofInstructions generation instructions).listed o).length := by
  rw [orders_listed pick o picks, listed_ofInstructions pick o picks, List.length_map,
    List.length_map]

end Sheet

def Drawing.placement? : Drawing → Option Placement
  | .label placement _ => some placement
  | _ => none

namespace Style
open Sheet

variable {α : Type}

/-- A result whose entries are instructions of the style, drawn one after the other. -/
structure ByNumber (s : Style) (project : Drawing → Option α) (ps : List (Placed α)) : Prop where
  stored : ∀ p ∈ ps, s.Stored project p
  ascending : ps.Pairwise (·.order < ·.order)

/-- A result whose entries are instructions of the style, by priority, those of equal
priority in document order. -/
structure ByPriority (s : Style) (project : Drawing → Option α) (priority : α → Int)
    (ps : List (Placed α)) : Prop where
  stored : ∀ p ∈ ps, s.Stored project p
  ascending : ps.Pairwise fun p q => priority p.drawing < priority q.drawing ∨
    priority p.drawing = priority q.drawing ∧ p.index < q.index

variable {s : Style} {findings : List Finding} {pick : Selector → Drawing → Option α}
  {project : Drawing → Option α} {priority : α → Int}

private theorem byNumber_collected (pick : Selector → Drawing → Option α)
    (sheet : s.sheet = .ofFindings s.generation findings)
    (same : ∀ s d x, pick s d = some x → project d = some x)
    (shapes : ∀ d x, project d = some x → d.isShape = true) (keep : Placed α → Bool) :
    s.ByNumber project ((collect s.generation pick (arrange 0 findings)).filter keep) where
  stored p member := stored_collect sheet pick same (List.mem_filter.mp member).1
  ascending := by
    have shaped : ∀ s d x, pick s d = some x → d.isShape = true :=
      fun s d x picked => shapes d x (same s d x picked)
    rw [collect_shapes shaped]
    exact (gather_orders shaped 0 findings).filter keep

theorem byPriority_collected (pick : Selector → Drawing → Option α)
    (sheet : s.sheet = .ofFindings s.generation findings)
    (same : ∀ s d x, pick s d = some x → project d = some x)
    (given : ∀ d x, project d = some x → d.priority? = some (priority x))
    (keep : Placed α → Bool) :
    s.ByPriority project priority ((collect s.generation pick (arrange 0 findings)).filter keep) where
  stored p member := stored_collect sheet pick same (List.mem_filter.mp member).1
  ascending := by
    have order {p : Placed α} (member : p ∈ collect s.generation pick (arrange 0 findings)) :
        p.order = priority p.drawing :=
      gather_priority (fun s d x picked => given d x (same s d x picked))
        (mem_sortBy.mp member)
    have ascending : Ascending (·.order) (collect s.generation pick (arrange 0 findings)) :=
      sortBy_ascending _
    have document : (collect s.generation pick (arrange 0 findings)).Pairwise
        (Tied (·.order) (·.index < ·.index)) := collect_tied
    refine List.Pairwise.filter keep
      ((ascending.and document).imp_of_mem fun first second ⟨less, tied⟩ => ?_)
    rw [← order first, ← order second]
    rcases Int.lt_or_eq_of_le less with below | equal
    · exact .inl below
    · exact .inr ⟨equal, tied equal⟩

theorem priority_label (d : Drawing) (l : Label) (labelled : d.label? = some l) :
    d.priority? = some l.priority := by
  cases d with
  | label placement own =>
    rw [← Option.some.inj labelled]
    rfl
  | _ => contradiction

/-- The numbers of the shapes of a theme, in document order. -/
theorem shape_numbers (next : Nat) (findings : List Finding) :
    ((arrange next findings).filter (·.drawing.isShape)).map (·.order) =
      (List.range' next
        ((arrange next findings).filter (·.drawing.isShape)).length).map Int.ofNat := by
  rw [shapes_arrange, List.map_map, List.length_map, List.length_zipIdx, ← List.zipIdx_map_snd,
    List.map_map]
  rfl

private theorem shape_of_path {i : Instruction} :
    (i.drawing.isShape && i.drawing.path?.isSome) = i.drawing.path?.isSome := by
  cases i.drawing <;> rfl

private theorem shape_of_circle {i : Instruction} :
    (i.drawing.isShape && !i.drawing.path?.isSome) = i.drawing.circle?.isSome := by
  cases i.drawing <;> rfl

/-- The numbers of the paths and the circles together are those of all shapes. -/
theorem numbers_perm (sheet : s.sheet = .ofFindings s.generation findings) :
    (s.sheet.orders s.sheet.paths ++ s.sheet.orders s.sheet.circles).Perm
      (((arrange 0 findings).filter (·.drawing.isShape)).map (·.order)) := by
  let shapes := (arrange 0 findings).filter (·.drawing.isShape)
  have paths : s.sheet.orders s.sheet.paths =
      (shapes.filter (·.drawing.path?.isSome)).map (·.order) := by
    rw [sheet]
    refine (orders_listed (fun _ => Drawing.path?) .paths fun _ _ => rfl).trans ?_
    rw [collect_shapes (fun _ => isShape_path), gather_numbers, List.filter_filter]
    simp only [Bool.and_comm, shape_of_path]
  have circles : s.sheet.orders s.sheet.circles =
      (shapes.filter fun i => !i.drawing.path?.isSome).map (·.order) := by
    rw [sheet]
    refine (orders_listed (fun _ => Drawing.circle?) .circles fun _ _ => rfl).trans ?_
    rw [collect_shapes (fun _ => isShape_circle), gather_numbers, List.filter_filter]
    simp only [Bool.and_comm _ (Drawing.isShape _), shape_of_circle]
  rw [paths, circles, ← List.map_append]
  exact (List.filter_append_perm _ shapes).map _

/-- Queries of a style that there can be come in order, and what is numbered is numbered
from zero on, as it stands in the document. -/
theorem queries_ordered (ops : List Operation) (zoom : Nat) (closed : Bool) (tags : List Tag) :
    let s := ({} : Style).run ops
    let count := s.sheet.paths.length + s.sheet.circles.length
    s.sheet.instructions.toList.map (fun i => (i.selector, i.drawing)) =
        (({} : Style).edition none ops).elim [] Edition.drawn ∧
      (s.sheet.instructions.toList.filter (·.drawing.isShape)).map (·.order) =
        (List.range count).map Int.ofNat ∧
      (s.sheet.orders s.sheet.paths ++ s.sheet.orders s.sheet.circles).Perm
        ((List.range count).map Int.ofNat) ∧
      s.ByNumber Drawing.path? (s.paths zoom closed tags) ∧
      s.ByNumber Drawing.circle? (s.circles zoom tags) ∧
      s.ByPriority Drawing.label? Label.priority (s.pathLabels zoom) ∧
      s.ByPriority Drawing.label? Label.priority (s.pointLabels zoom) ∧
      s.ByPriority Drawing.label? Label.priority (s.areaLabels zoom) ∧
      s.ByPriority Drawing.symbol? Symbol.priority (s.pointSymbols zoom) ∧
      s.ByPriority Drawing.symbol? Symbol.priority (s.areaSymbols zoom) := by
  intro s count
  have holds : s.Holds (({} : Style).edition none ops) := run_holds new_holds ops
  let findings := (({} : Style).edition none ops).elim [] Edition.findings
  have sheet : s.sheet = .ofFindings s.generation findings := holds
  -- Paths and circles are told apart after they have been numbered, by one counter for both.
  let shapes := (arrange 0 findings).filter (·.drawing.isShape)
  have perm : (s.sheet.orders s.sheet.paths ++ s.sheet.orders s.sheet.circles).Perm
      (shapes.map (·.order)) := numbers_perm sheet
  have counted : shapes.length = count := by
    have lengths := perm.length_eq
    have paths : (s.sheet.orders s.sheet.paths).length = s.sheet.paths.length := by
      rw [sheet]
      exact length_orders (fun _ => Drawing.path?) .paths fun _ _ => rfl
    have circles : (s.sheet.orders s.sheet.circles).length = s.sheet.circles.length := by
      rw [sheet]
      exact length_orders (fun _ => Drawing.circle?) .circles fun _ _ => rfl
    rw [List.length_append, paths, circles, List.length_map] at lengths
    exact lengths.symm
  have numbers : shapes.map (·.order) = (List.range count).map Int.ofNat := by
    rw [← counted, List.range_eq_range']
    exact shape_numbers 0 findings
  refine ⟨instructions_drawn holds, ?_, ?_, ?_, ?_, ?_, ?_, ?_, ?_, ?_⟩
  · rw [sheet, instructions_ofFindings]
    exact numbers
  · rwa [numbers] at perm
  · rw [paths_collect sheet]
    exact byNumber_collected (fun _ => Drawing.path?) sheet (fun _ _ _ => id) isShape_path _
  · rw [circles_collect sheet]
    exact byNumber_collected (fun _ => Drawing.circle?) sheet (fun _ _ _ => id) isShape_circle _
  · rw [pathLabels_collect sheet]
    exact byPriority_collected pathLabel? sheet picked_along priority_label _
  · rw [pointLabels_collect sheet]
    exact byPriority_collected (caption? .node) sheet (picked_caption .node) priority_label _
  · rw [areaLabels_collect sheet]
    exact byPriority_collected (caption? .way) sheet (picked_caption .way) priority_label _
  · rw [pointSymbols_collect sheet]
    exact byPriority_collected (fun _ => Drawing.symbol?) sheet (fun _ _ _ => id) priority_symbol _
  · rw [areaSymbols_collect sheet]
    exact byPriority_collected (fun _ => Drawing.symbol?) sheet (fun _ _ _ => id) priority_symbol _

end Style
end MapTheme
