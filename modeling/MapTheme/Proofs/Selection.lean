import MapTheme.Proofs.Filing

/-! The queries of a style as plain scans of its instructions. The lists that a sheet
keeps, and the zoom levels and kinds that they were made for, narrow the search and
leave out nothing that a scan of all instructions would find. -/
namespace MapTheme

/-- Whether features of a kind show the labels that go there. -/
def Placement.suits (kind : Kind) (closed : Bool) : Placement → Bool
  | .caption => kind = .node || closed
  | .along => kind = .way

def Drawing.labelFor? (fits : Placement → Bool) : Drawing → Option Label
  | .label placement l => if fits placement then some l else none
  | _ => none

theorem isShape_path (d : Drawing) (p : Path) (picked : d.path? = some p) : d.isShape = true := by
  cases d with
  | path => rfl
  | _ => contradiction

theorem isShape_circle (d : Drawing) (c : Circle) (picked : d.circle? = some c) :
    d.isShape = true := by
  cases d with
  | circle => rfl
  | _ => contradiction

def Placed.shown (zoom : Nat) (kind : Kind) (closed : Bool) (tags : List Tag) (p : Placed Label) :
    Bool :=
  p.selector.accepts zoom kind closed tags && tags.any (·.key = p.drawing.key)

namespace Selector

variable {s : Selector} {zoom : Nat} {kind : Kind} {closed : Bool} {tags : List Tag}

theorem containsZoom_of_accepts (accepted : s.accepts zoom kind closed tags = true) :
    s.containsZoom zoom = true := by
  simp only [accepts, Bool.and_eq_true] at accepted
  exact accepted.1.1.1

theorem geometry_of_accepts (accepted : s.accepts zoom kind closed tags = true) :
    s.geometry.accepts kind = true := by
  simp only [accepts, Bool.and_eq_true] at accepted
  exact accepted.1.1.2

end Selector

private theorem filterMap_append_perm {α β : Type} {f g h : α → Option β}
    (parted : ∀ a, f a = none ∧ h a = g a ∨ g a = none ∧ h a = f a) (items : List α) :
    (items.filterMap f ++ items.filterMap g).Perm (items.filterMap h) := by
  induction items with
  | nil => exact .refl _
  | cons a items ih =>
    rcases parted a with ⟨none, same⟩ | ⟨none, same⟩
    · rw [List.filterMap_cons_none none]
      cases found : g a with
      | none => rwa [List.filterMap_cons_none found, List.filterMap_cons_none (same.trans found)]
      | some b =>
        rw [List.filterMap_cons_some found, List.filterMap_cons_some (same.trans found)]
        exact List.perm_middle.trans (ih.cons b)
    · rw [List.filterMap_cons_none none]
      cases found : f a with
      | none => rwa [List.filterMap_cons_none found, List.filterMap_cons_none (same.trans found)]
      | some b =>
        rw [List.filterMap_cons_some found, List.filterMap_cons_some (same.trans found)]
        exact ih.cons b

private theorem filter_and_of_imp {α : Type} {keep wider : α → Bool}
    (imp : ∀ a, keep a = true → wider a = true) (items : List α) :
    (items.filter wider).filter keep = items.filter keep := by
  rw [List.filter_filter]
  refine List.filter_congr fun a _ => ?_
  cases kept : keep a with
  | false => rfl
  | true => rw [imp a kept, Bool.and_self]

namespace Sheet

variable (generation : Nat) (instructions : List Instruction)

private theorem filter_gather {α : Type} {keep : Placed α → Bool}
    {pick other : Selector → Drawing → Option α}
    (same : ∀ s d handle order,
      ((pick s d).map fun x => (⟨handle, s, order, x⟩ : Placed α)).filter keep =
        ((other s d).map fun x => ⟨handle, s, order, x⟩).filter keep) :
    (gather generation pick instructions).filter keep =
      (gather generation other instructions).filter keep := by
  rw [gather, gather, List.filter_filterMap, List.filter_filterMap]
  exact congrArg (List.filterMap · _) (funext fun entry => same _ _ _ _)

private theorem gather_nothing {α : Type} {pick : Selector → Drawing → Option α}
    (nothing : ∀ s d, pick s d = none) : gather generation pick instructions = [] := by
  rw [gather, List.filterMap_eq_nil_iff]
  rintro ⟨i, index⟩ _
  exact Option.map_eq_none_iff.mpr (nothing i.selector i.drawing)

private theorem gather_labels_perm {fits here there : Placement → Bool}
    (parted : ∀ p, here p = false ∧ fits p = there p ∨ there p = false ∧ fits p = here p) :
    (gather generation (fun _ => Drawing.labelFor? here) instructions ++
      gather generation (fun _ => Drawing.labelFor? there) instructions).Perm
        (gather generation (fun _ => Drawing.labelFor? fits) instructions) := by
  refine filterMap_append_perm (fun entry => ?_) _
  obtain ⟨⟨s, d, order⟩, index⟩ := entry
  cases d with
  | label placement l =>
    rcases parted placement with ⟨absent, same⟩ | ⟨absent, same⟩
    · exact .inl (by simp [Drawing.labelFor?, absent, same])
    · exact .inr (by simp [Drawing.labelFor?, absent, same])
  | _ => exact .inl ⟨rfl, rfl⟩

end Sheet

namespace Style
open Sheet

variable (generation : Nat) (instructions : List Instruction) (zoom : Nat) (kind : Kind)
  (closed : Bool) (tags : List Tag)

/-- The texts that go where they fit and are shown for a feature, in document order. -/
def textScan (fits : Placement → Bool) : List (Placed Label) :=
  (gather generation (fun _ => Drawing.labelFor? fits) instructions).filter
    (·.shown zoom kind closed tags)

/-- What is shown at a level has been selected for that level before. -/
theorem filter_shown (ps : List (Placed Label)) :
    (ps.filter (·.selector.containsZoom zoom)).filter (·.shown zoom kind closed tags) =
      ps.filter (·.shown zoom kind closed tags) := by
  refine filter_and_of_imp (fun p kept => ?_) ps
  rw [Placed.shown, Bool.and_eq_true] at kept
  exact Selector.containsZoom_of_accepts kept.1

theorem filter_accepted (ps : List (Placed Symbol)) :
    (ps.filter fun p => p.selector.containsZoom zoom && p.selector.geometry.accepts kind).filter
        (·.selector.accepts zoom kind closed tags) =
      ps.filter (·.selector.accepts zoom kind closed tags) := by
  refine filter_and_of_imp (fun p accepted => ?_) ps
  rw [Selector.containsZoom_of_accepts accepted, Selector.geometry_of_accepts accepted]
  rfl

private theorem shown_collect (pick : Selector → Drawing → Option Label) :
    ((collect generation pick instructions).filter (·.selector.containsZoom zoom)).filter
        (·.shown zoom kind closed tags) =
      sortBy (·.order)
        ((gather generation pick instructions).filter (·.shown zoom kind closed tags)) := by
  rw [filter_shown, collect, filter_sortBy]

/-- A caption whose selector is not for a kind is not shown for it either. -/
theorem shown_captions :
    ((collect generation (caption? kind) instructions).filter (·.selector.containsZoom zoom)).filter
        (·.shown zoom kind closed tags) =
      sortBy (·.order) (textScan generation instructions zoom kind closed tags (· = .caption)) := by
  rw [shown_collect]
  refine congrArg (sortBy _) (filter_gather _ _ fun s d handle order => ?_)
  rcases d with _ | _ | ⟨_ | _, l⟩ | _
  case label.caption =>
    by_cases suited : s.geometry.accepts kind
    · simp [caption?, Drawing.labelFor?, suited]
    · have rejected : s.accepts zoom kind closed tags = false := by
        rw [Bool.eq_false_iff]
        exact fun accepted => suited (Selector.geometry_of_accepts accepted)
      simp [caption?, Drawing.labelFor?, suited, Placed.shown, rejected, Option.filter]
  all_goals rfl

private theorem shown_pathLabels :
    ((collect generation pathLabel? instructions).filter (·.selector.containsZoom zoom)).filter
        (·.shown zoom kind closed tags) =
      sortBy (·.order) (textScan generation instructions zoom kind closed tags (· = .along)) := by
  rw [shown_collect]
  refine congrArg (sortBy _) (filter_gather _ _ fun s d handle order => ?_)
  rcases d with _ | _ | ⟨_ | _, l⟩ | _ <;> rfl

private theorem textScan_suits (here : Placement) :
    textScan generation instructions zoom kind closed tags
        (fun p => p = here && p.suits kind closed) =
      if here.suits kind closed then
        textScan generation instructions zoom kind closed tags (· = here)
      else [] := by
  split
  · next suited =>
    refine congrArg (textScan generation instructions zoom kind closed tags) (funext fun p => ?_)
    by_cases same : p = here
    · subst same
      simp [suited]
    · simp [same]
  · next unsuited =>
    rw [textScan, gather_nothing, List.filter_nil]
    rintro s (_ | _ | ⟨placement, l⟩ | _)
    case label =>
      have absent : ¬(placement = here ∧ placement.suits kind closed = true) := by
        rintro ⟨rfl, suited⟩
        exact unsuited suited
      simp only [Drawing.labelFor?, Bool.and_eq_true, decide_eq_true_eq, if_neg absent]
    all_goals rfl

section Queries

variable {s : Style} {generation : Nat} {instructions : List Instruction} {zoom : Nat} {kind : Kind}
  {closed : Bool} {tags : List Tag} (sheet : s.sheet = .ofInstructions generation instructions)
include sheet

/-- The labels for a feature are the texts shown for it, of either place, put in order. -/
theorem labels_eq :
    s.labels zoom kind closed tags =
      sortBy (·.order)
        (sortBy (·.order) (textScan generation instructions zoom kind closed tags fun p =>
            p = .caption && p.suits kind closed) ++
          sortBy (·.order) (textScan generation instructions zoom kind closed tags fun p =>
            p = .along && p.suits kind closed)) := by
  have captions := shown_captions generation instructions zoom kind closed tags
  have along := shown_pathLabels generation instructions zoom kind closed tags
  have once (texts : List (Placed Label)) :
      sortBy (·.order) (sortBy (·.order) texts) = sortBy (·.order) texts :=
    sortBy_of_ascending (sortBy_ascending texts)
  have empty : sortBy (·.order) ([] : List (Placed Label)) = [] := rfl
  rw [textScan_suits, textScan_suits]
  cases kind with
  | node =>
    rw [← pointLabels_collect sheet] at captions
    exact captions.trans (by simp [Placement.suits, empty, once])
  | way =>
    rw [← pathLabels_collect sheet] at along
    cases closed with
    | false => exact along.trans (by simp [Placement.suits, empty, once])
    | true =>
      rw [← areaLabels_collect sheet] at captions
      have merged : (s.labelCandidates zoom .way true).filter (·.shown zoom .way true tags) = _ :=
        filter_sortBy _ (s.areaLabels zoom ++ s.pathLabels zoom)
      rw [List.filter_append] at merged
      refine merged.trans (congrArg (sortBy _) ?_)
      exact congr (congrArg HAppend.hAppend captions) along

theorem labels_perm :
    (s.labels zoom kind closed tags).Perm
      (textScan generation instructions zoom kind closed tags (·.suits kind closed)) := by
  have parted (p : Placement) :
      (decide (p = .caption) && p.suits kind closed) = false ∧
          p.suits kind closed = (decide (p = .along) && p.suits kind closed) ∨
        (decide (p = .along) && p.suits kind closed) = false ∧
          p.suits kind closed = (decide (p = .caption) && p.suits kind closed) := by
    cases p
    · exact .inl ⟨rfl, rfl⟩
    · exact .inr ⟨rfl, rfl⟩
  have whole := (gather_labels_perm generation instructions parted).filter
    (·.shown zoom kind closed tags)
  rw [List.filter_append] at whole
  rw [labels_eq sheet]
  refine (sortBy_perm _).trans (.trans ?_ whole)
  exact (sortBy_perm _).append (sortBy_perm _)

theorem labels_nodup : ((s.labels zoom kind closed tags).map (·.index)).Nodup := by
  have indices : (textScan generation instructions zoom kind closed tags
      (·.suits kind closed)).Pairwise (·.index < ·.index) := (gather_indices instructions).filter _
  refine ((labels_perm sheet).map (·.index)).nodup_iff.mpr (List.pairwise_map.mpr ?_)
  exact indices.imp Nat.ne_of_lt

theorem symbols_eq :
    s.symbols zoom kind closed tags =
      if Placement.caption.suits kind closed then
        sortBy (·.order) ((gather generation (fun _ => Drawing.symbol?) instructions).filter
          (·.selector.accepts zoom kind closed tags))
      else [] := by
  have listed :=
    (filter_accepted zoom kind closed tags
      (collect generation (fun _ => Drawing.symbol?) instructions)).trans (filter_sortBy _ _)
  cases kind with
  | node =>
    rw [← pointSymbols_collect sheet] at listed
    exact listed
  | way =>
    cases closed with
    | false => rfl
    | true =>
      rw [← areaSymbols_collect sheet] at listed
      exact listed

end Queries

variable {generation zoom : Nat} {kind : Kind} {closed : Bool} {tags : List Tag}
  {findings : List Finding}

theorem sheet_ofFindings (generation : Nat) (findings : List Finding) :
    (ofFindings generation findings).sheet = .ofInstructions generation (arrange 0 findings) := rfl

private theorem priority_labelFor (fits : Placement → Bool) (d : Drawing) (l : Label)
    (found : d.labelFor? fits = some l) : d.priority? = some l.priority := by
  cases d with
  | label placement own =>
    rw [Drawing.labelFor?] at found
    split at found
    · rw [← Option.some.inj found]
      rfl
    · contradiction
  | _ => contradiction

theorem priority_symbol (d : Drawing) (s : Symbol) (found : d.symbol? = some s) :
    d.priority? = some s.priority := by
  cases d with
  | symbol own =>
    rw [← Option.some.inj found]
    rfl
  | _ => contradiction

theorem textScan_priority {fits : Placement → Bool} {p : Placed Label}
    (member : p ∈ textScan generation (arrange 0 findings) zoom kind closed tags fits) :
    p.order = p.drawing.priority :=
  gather_priority (fun _ => priority_labelFor fits) (List.mem_filter.mp member).1

section Findings

variable {s : Style} (sheet : s.sheet = .ofFindings generation findings)
include sheet

theorem labels_ascending :
    ((s.labels zoom kind closed tags).map (·.drawing.priority)).Pairwise (· ≤ ·) := by
  have ascending : Ascending (·.order) (s.labels zoom kind closed tags) := by
    rw [labels_eq sheet]
    exact sortBy_ascending _
  rw [List.pairwise_map]
  refine ascending.imp_of_mem fun first second less => ?_
  rwa [← textScan_priority ((labels_perm sheet).mem_iff.mp first),
    ← textScan_priority ((labels_perm sheet).mem_iff.mp second)]

theorem paths_eq :
    s.paths zoom closed tags =
      (gather generation (fun _ => Drawing.path?) (arrange 0 findings)).filter
        (·.selector.accepts zoom .way closed tags) := by
  rw [paths_collect sheet, collect_shapes (fun _ => isShape_path)]
  rfl

theorem circles_eq (closed : Bool) :
    s.circles zoom tags =
      (gather generation (fun _ => Drawing.circle?) (arrange 0 findings)).filter
        (·.selector.accepts zoom .node closed tags) := by
  have asked : (fun p : Placed Circle => p.selector.acceptsNodeAt zoom tags) =
      (·.selector.accepts zoom .node closed tags) := by
    funext p
    simp [Selector.acceptsNodeAt, Selector.accepts]
  rw [circles_collect sheet, collect_shapes (fun _ => isShape_circle), asked]

end Findings

end Style
end MapTheme
