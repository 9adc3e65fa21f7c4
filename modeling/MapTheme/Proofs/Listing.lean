import Mathlib.Data.List.Basic
import MapTheme.Proofs.Selection

/-! What a query lists of a theme, read off its places: of the elements in rules that
are enabled and admit the feature, those whose name is asked for, each drawn as its
attributes say. -/
namespace MapTheme

/-- The places at which something may be drawn for a subject. -/
def Element.openTo (root : Element) (categories : List String) (subject : Subject) : List Place :=
  root.descendants.filter fun p => p.reached categories && p.admits subject

def Element.placement? (e : Element) : Option Placement :=
  match e.name with
  | "caption" => some .caption
  | "pathText" => some .along
  | _ => none

/-- Whether an element is a text that goes where it fits and whose key some tag has. -/
def Element.letters (fits : Placement → Bool) (tags : List (String × String)) (e : Element) : Bool :=
  e.placement?.any fits && (e.get? "k").any fun key => tags.any (·.1 = key)

theorem map_filter {α β : Type} (keep : α → Bool) (f : α → β) (items : List α) :
    (items.filter keep).map f = items.filterMap fun a => if keep a then some (f a) else none := by
  rw [← List.filterMap_eq_map', List.filterMap_filter]

namespace Workshop
open Sheet

variable {α β : Type} {w : Workshop} {tags : List Tag} {pairs : List (String × String)}

theorem gather_places (w : Workshop) (root : Element) (generation : Nat)
    (pick : Selector → Drawing → Option α) (make : Selector → α → Option β) :
    (gather generation pick (arrange 0 (w.themeFindings root))).filterMap
        (fun p => make p.selector p.drawing) =
      root.descendants.filterMap fun p =>
        (w.drawnAt? p).bind fun drawn => (pick drawn.1 drawn.2).bind (make drawn.1) := by
  let told : Selector × Drawing → Option β := fun drawn => (pick drawn.1 drawn.2).bind (make drawn.1)
  have looked : (gather generation pick (arrange 0 (w.themeFindings root))).filterMap
      (fun p => make p.selector p.drawing) = (arrange 0 (w.themeFindings root)).filterMap
        fun i => (pick i.selector i.drawing).bind (make i.selector) :=
    filterMap_gather (fun s _ x => make s x) _
  have stripped : (arrange 0 (w.themeFindings root)).filterMap
      (fun i => (pick i.selector i.drawing).bind (make i.selector)) =
        ((arrange 0 (w.themeFindings root)).map fun i => (i.selector, i.drawing)).filterMap told := by
    rw [List.filterMap_map]
    rfl
  rw [looked, stripped, map_arrange, drawn_themeFindings, List.filterMap_filterMap]

/-- The entries that a feature is accepted by are those of the places that are open to
it. -/
theorem accepted_places (spelled : w.keys.Spells tags pairs) (root : Element) (generation : Nat)
    (pick : Drawing → Option α) (keep : α → Bool) (make : α → β) (zoom : Nat) (kind : Kind)
    (closed : Bool) :
    ((gather generation (fun _ => pick) (arrange 0 (w.themeFindings root))).filter fun p =>
        p.selector.accepts zoom kind closed tags && keep p.drawing).map (fun p => make p.drawing) =
      (root.openTo w.categories ⟨zoom, kind, closed, pairs⟩).filterMap fun p =>
        (((w.drawing? (w.selector p.trail) p.element).bind pick).filter keep).map make := by
  let told (s : Selector) (x : α) : Option β :=
    if s.accepts zoom kind closed tags && keep x then some (make x) else none
  have asked := gather_places w root generation (fun _ => pick) told
  rw [map_filter, Element.openTo, List.filterMap_filter]
  refine asked.trans (congrArg (List.filterMap · root.descendants) (funext fun p => ?_))
  have accepted : (w.selector p.trail).accepts zoom kind closed tags =
      p.admits ⟨zoom, kind, closed, pairs⟩ := accepts_selector spelled p.trail zoom kind closed
  rw [drawnAt?]
  cases p.reached w.categories with
  | false => rfl
  | true =>
    -- What is picked does not depend on the selector, so the two tests can change places.
    rw [if_pos rfl, Option.bind_map, Bool.true_and, ← accepted]
    have picked : (w.drawing? (w.selector p.trail) p.element).bind
        ((fun drawn => (pick drawn.2).bind (told drawn.1)) ∘ (w.selector p.trail, ·)) =
          ((w.drawing? (w.selector p.trail) p.element).bind pick).bind (told (w.selector p.trail)) := by
      rw [Option.bind_assoc]
      rfl
    rw [picked]
    cases (w.drawing? (w.selector p.trail) p.element).bind pick with
    | none => simp
    | some x =>
      have kept : ((some x).filter keep).map make = if keep x then some (make x) else none := by
        cases found : keep x <;> simp [Option.filter, found]
      rw [Option.bind_some, kept]
      simp only [told]
      cases (w.selector p.trail).accepts zoom kind closed tags <;> rfl

def path (w : Workshop) (e : Element) : Path := if e.name = "area" then w.area e else w.line e

theorem drawing_path (s : Selector) (e : Element) :
    (w.drawing? s e).bind Drawing.path? =
      if e.name ∈ ["area", "line"] then some (w.path e) else none := by
  fun_cases drawing? <;> simp_all [path, Drawing.path?, Option.bind_map, Function.comp_def]

theorem drawing_circle (s : Selector) (e : Element) :
    (w.drawing? s e).bind Drawing.circle? =
      if e.name = "circle" then some (w.circle e) else none := by
  fun_cases drawing? <;> simp_all [Drawing.circle?, Option.bind_map, Function.comp_def]

theorem drawing_symbol (s : Selector) (e : Element) :
    (w.drawing? s e).bind Drawing.symbol? =
      if e.name = "symbol" then (w.icon? e).map (symbol e) else none := by
  cases found : w.icon? e <;> fun_cases drawing? <;>
    simp_all [Drawing.symbol?, Option.bind_map, Function.comp_def]

private theorem drawing_label (fits : Placement → Bool) {s : Selector}
    (possible : s.geometry ≠ .never) (e : Element) :
    (w.drawing? s e).bind (Drawing.labelFor? fits) =
      if e.placement?.any fits then (w.labelKey? e).map (w.label e) else none := by
  rw [Element.placement?]
  cases found : w.labelKey? e <;> fun_cases drawing? <;>
    simp_all [Drawing.labelFor?, Option.bind_map, Function.comp_def]

theorem drawing_pathLabel (s : Selector) (e : Element) :
    (w.drawing? s e).bind (pathLabel? s) =
      if e.name = "pathText" then (w.labelKey? e).map (w.label e) else none := by
  cases found : w.labelKey? e <;> fun_cases drawing? <;>
    simp_all [pathLabel?, Option.bind_map, Function.comp_def]

theorem drawing_caption (kind : Kind) (s : Selector) (e : Element) :
    (w.drawing? s e).bind (caption? kind s) =
      if e.name = "caption" ∧ s.geometry.accepts kind then (w.labelKey? e).map (w.label e)
      else none := by
  cases found : w.labelKey? e <;> fun_cases drawing? <;>
    simp_all [caption?, Option.bind_map, Function.comp_def, Geometry.accepts]
  rfl

variable (spelled : w.keys.Spells tags pairs) (root : Element) (generation zoom : Nat) (kind : Kind)
  (closed : Bool)
include spelled

private theorem possible_of_open {p : Place}
    (member : p ∈ root.openTo w.categories ⟨zoom, kind, closed, pairs⟩) :
    (w.selector p.trail).geometry ≠ .never := by
  obtain ⟨_, opened⟩ := List.mem_filter.mp member
  rw [Bool.and_eq_true] at opened
  have accepted := (accepts_selector spelled p.trail zoom kind closed).trans opened.2
  have suited := Selector.geometry_of_accepts accepted
  intro never
  rw [never] at suited
  contradiction

theorem paths_places :
    ((.ofFindings generation (w.themeFindings root) : Style).paths zoom closed tags).map
        (·.drawing) =
      ((root.openTo w.categories ⟨zoom, .way, closed, pairs⟩).filter
        (·.element.name ∈ ["area", "line"])).map fun p => w.path p.element := by
  have accepted := accepted_places spelled root generation Drawing.path? (fun _ => true) id zoom
    .way closed
  simp only [Bool.and_true, drawing_path] at accepted
  rw [Style.paths_eq (Style.sheet_ofFindings _ _), map_filter _ (fun p : Place => w.path p.element)]
  refine accepted.trans (congrArg (List.filterMap · _) (funext fun p => ?_))
  by_cases named : p.element.name ∈ ["area", "line"] <;> simp [named, Option.filter]

theorem circles_places :
    ((.ofFindings generation (w.themeFindings root) : Style).circles zoom tags).map (·.drawing) =
      ((root.openTo w.categories ⟨zoom, .node, closed, pairs⟩).filter
        (·.element.name = "circle")).map fun p => w.circle p.element := by
  have accepted := accepted_places spelled root generation Drawing.circle? (fun _ => true) id zoom
    .node closed
  simp only [Bool.and_true, drawing_circle] at accepted
  rw [Style.circles_eq (Style.sheet_ofFindings _ _),
    map_filter _ (fun p : Place => w.circle p.element)]
  refine accepted.trans (congrArg (List.filterMap · _) (funext fun p => ?_))
  by_cases named : p.element.name = "circle" <;> simp [named, Option.filter]

private theorem carried_label (e : Element) :
    ((w.labelKey? e).map (w.label e)).filter (fun l => tags.any (·.key = l.key)) =
      if (e.get? "k").any fun key => pairs.any (·.1 = key) then (w.labelKey? e).map (w.label e)
      else none := by
  rw [labelKey?]
  cases e.get? "k" with
  | none => rfl
  | some key =>
    cases numbered : w.keys.id? key with
    | none => simp [numbered]
    | some id =>
      rw [Option.bind_some, numbered, Option.map_some, Option.any_some, ← spelled.any_key numbered]
      rfl

theorem textScan_places (fits : Placement → Bool) (make : Label → β) :
    (Style.textScan generation (arrange 0 (w.themeFindings root)) zoom kind closed tags fits).map
        (fun p => make p.drawing) =
      ((root.openTo w.categories ⟨zoom, kind, closed, pairs⟩).filter
        (·.element.letters fits pairs)).filterMap fun p =>
          (w.labelKey? p.element).map fun key => make (w.label p.element key) := by
  have accepted := accepted_places spelled root generation (Drawing.labelFor? fits)
    (fun l => tags.any (·.key = l.key)) make zoom kind closed
  rw [List.filterMap_filter]
  refine accepted.trans (List.filterMap_congr fun p member => ?_)
  have possible := possible_of_open spelled root zoom kind closed member
  rw [drawing_label fits possible, Element.letters]
  cases p.element.placement?.any fits with
  | false => rfl
  | true =>
    rw [if_pos rfl, carried_label spelled, Bool.true_and]
    split
    · rw [Option.map_map]
      rfl
    · rfl

theorem labels_places :
    (((.ofFindings generation (w.themeFindings root) : Style).labels zoom kind closed tags).map
        fun p => some p.drawing).Perm
      (((root.openTo w.categories ⟨zoom, kind, closed, pairs⟩).filter fun p =>
        p.element.letters (·.suits kind closed) pairs && (w.labelKey? p.element).isSome).map
          fun p => (w.labelKey? p.element).map (w.label p.element)) := by
  have scanned :
      ((.ofFindings generation (w.themeFindings root) : Style).labels zoom kind closed tags).Perm _ :=
    Style.labels_perm (Style.sheet_ofFindings generation (w.themeFindings root))
  have lettered : (Style.textScan generation (arrange 0 (w.themeFindings root)) zoom kind closed tags
      (·.suits kind closed)).map (·.drawing) =
        ((root.openTo w.categories ⟨zoom, kind, closed, pairs⟩).filter
          (·.element.letters (·.suits kind closed) pairs)).filterMap
            fun p => (w.labelKey? p.element).map (w.label p.element) :=
    textScan_places spelled root generation zoom kind closed _ id
  have drawn := (scanned.map (·.drawing)).map some
  rw [lettered, List.map_filterMap_some_eq_filter_map_isSome, List.filter_map, List.filter_filter,
    List.map_map] at drawn
  refine drawn.trans (.of_eq (congrArg (List.map _) (List.filter_congr fun p _ => ?_)))
  rw [Function.comp_apply, Option.isSome_map, Bool.and_comm]

theorem symbols_places (make : Symbol → β) :
    ((gather generation (fun _ => Drawing.symbol?) (arrange 0 (w.themeFindings root))).filter
        (·.selector.accepts zoom kind closed tags)).map (fun p => make p.drawing) =
      ((root.openTo w.categories ⟨zoom, kind, closed, pairs⟩).filter
        (·.element.name = "symbol")).filterMap fun p =>
          (w.icon? p.element).map fun icon => make (symbol p.element icon) := by
  have accepted := accepted_places spelled root generation Drawing.symbol? (fun _ => true) make zoom
    kind closed
  simp only [Bool.and_true, drawing_symbol] at accepted
  rw [List.filterMap_filter]
  refine accepted.trans (congrArg (List.filterMap · _) (funext fun p => ?_))
  cases w.icon? p.element with
  | none => simp
  | some icon => by_cases named : p.element.name = "symbol" <;> simp [named]

end Workshop
end MapTheme
