import MapTheme.Proofs.Arrangement

/-! How the instructions of a theme get into the lists of its sheet. Each is kept in the
arena, and its handle goes to the lists that it is for, in document order; nothing is kept
any more when these are sorted. So every handle in a list names what it was made for, and
looking for instructions through the handles finds all there are. -/
namespace MapTheme

inductive Output where
  | paths
  | circles
  | pathLabels
  | pointLabels
  | areaLabels
  | symbols
deriving Repr, DecidableEq

/-- What a list is made of. -/
def Output.picks : Output → Selector → Drawing → Bool
  | .paths, _, d => d.path?.isSome
  | .circles, _, d => d.circle?.isSome
  | .pathLabels, s, d => (Sheet.pathLabel? s d).isSome
  | .pointLabels, s, d => (Sheet.caption? .node s d).isSome
  | .areaLabels, s, d => (Sheet.caption? .way s d).isSome
  | .symbols, _, d => d.symbol?.isSome

/-- Whether a drawing is of the kind that a list is of. -/
def Output.holds : Output → Drawing → Bool
  | .paths, d => d.path?.isSome
  | .circles, d => d.circle?.isSome
  | .pathLabels, d => d.label?.isSome
  | .pointLabels, d => d.label?.isSome
  | .areaLabels, d => d.label?.isSome
  | .symbols, d => d.symbol?.isSome

namespace Sheet

def listed (s : Sheet) : Output → List Handle
  | .paths => s.paths
  | .circles => s.circles
  | .pathLabels => s.pathLabels
  | .pointLabels => s.pointLabels
  | .areaLabels => s.areaLabels
  | .symbols => s.symbols

theorem picked_caption (kind : Kind) (s : Selector) (d : Drawing) (l : Label)
    (picked : caption? kind s d = some l) : d.label? = some l := by
  rcases d with p | c | ⟨_ | _, own⟩ | y
  case label.caption =>
    rw [caption?] at picked
    split at picked
    · exact picked
    · contradiction
  all_goals contradiction

theorem picked_along (s : Selector) (d : Drawing) (l : Label) (picked : pathLabel? s d = some l) :
    d.label? = some l := by
  rcases d with p | c | ⟨_ | _, own⟩ | y
  case label.along => exact picked
  all_goals contradiction

theorem holds_of_picks {o : Output} {s : Selector} {d : Drawing} (picks : o.picks s d = true) :
    o.holds d = true := by
  have labeled {l? : Option Label} (same : ∀ l, l? = some l → d.label? = some l)
      (picked : l?.isSome = true) : d.label?.isSome = true := by
    obtain ⟨l, found⟩ := Option.isSome_iff_exists.mp picked
    rw [same l found, Option.isSome_some]
  cases o with
  | paths => exact picks
  | circles => exact picks
  | pathLabels => exact labeled (picked_along s d) picks
  | pointLabels => exact labeled (picked_caption .node s d) picks
  | areaLabels => exact labeled (picked_caption .way s d) picks
  | symbols => exact picks

/-- Whether each handle of a sheet names what its list is of. -/
def Whole (s : Sheet) : Prop :=
  ∀ o, ∀ h ∈ s.listed o, ∃ i, s.get? h = some i ∧ o.holds i.drawing = true

def entries {α : Type} (s : Sheet) (o : Output) (project : Drawing → Option α) :
    List (Placed α) := s.select (s.listed o) project fun _ => true

theorem select_entries {α : Type} (s : Sheet) (o : Output) (project : Drawing → Option α)
    (keep : Selector → Bool) :
    s.select (s.listed o) project keep = (s.entries o project).filter (keep ·.selector) := by
  rw [entries, Arena.select, Arena.select, List.filter_filterMap]
  refine List.filterMap_congr fun h _ => ?_
  cases s.get? h with
  | none => rfl
  | some i =>
    cases kept : keep i.selector <;> cases projected : project i.drawing <;>
      simp [kept, projected, Option.filter]

/-- The handles of the instructions that are picked, from an index on. -/
def handles (generation : Nat) (picks : Selector → Drawing → Bool) :
    Nat → List Instruction → List Handle
  | _, [] => []
  | index, i :: rest =>
    (if picks i.selector i.drawing then [⟨index, generation⟩] else []) ++
      handles generation picks (index + 1) rest

variable {α : Type} {generation : Nat} {instructions : List Instruction}

private theorem append_ite {a : α} {as : List α} {wanted : Bool} :
    (if wanted then as ++ [a] else as) = as ++ if wanted then [a] else [] := by
  cases wanted with
  | false => exact (List.append_nil as).symm
  | true => rfl

private theorem arena_add (s : Sheet) (i : Instruction) :
    (s.add i).toArena = ⟨s.generation, s.instructions.push i⟩ := rfl

/-- One more instruction leaves the lists as they are, but for its handle at the end of
those that it is for. -/
theorem listed_add (s : Sheet) (i : Instruction) (o : Output) :
    (s.add i).listed o = s.listed o ++
      if o.picks i.selector i.drawing then [⟨s.instructions.size, s.generation⟩] else [] := by
  cases o <;> exact append_ite

private theorem arena_foldl (s : Sheet) (instructions : List Instruction) :
    (instructions.foldl add s).toArena = ⟨s.generation, s.instructions ++ instructions⟩ := by
  induction instructions generalizing s with
  | nil => rfl
  | cons i rest ih =>
    rw [List.foldl_cons, ih, arena_add]
    simp

private theorem listed_foldl (s : Sheet) (instructions : List Instruction) (o : Output) :
    (instructions.foldl add s).listed o =
      s.listed o ++ handles s.generation o.picks s.instructions.size instructions := by
  induction instructions generalizing s with
  | nil => exact (List.append_nil _).symm
  | cons i rest ih =>
    rw [List.foldl_cons, ih, listed_add, arena_add, List.append_assoc, handles, Array.size_push]

theorem listed_sort (s : Sheet) (o : Output) : s.sort.listed o = sortBy s.sortKey (s.listed o) := by
  cases o <;> rfl

theorem arena_ofInstructions (generation : Nat) (instructions : List Instruction) :
    (ofInstructions generation instructions).toArena = ⟨generation, instructions.toArray⟩ := by
  refine (arena_foldl (empty generation) instructions).trans ?_
  simp [empty]

theorem instructions_ofFindings (generation : Nat) (findings : List Finding) :
    (ofFindings generation findings).instructions.toList = arrange 0 findings := by
  rw [ofFindings, arena_ofInstructions]

section Collecting

variable (pick : Selector → Drawing → Option α) (o : Output)

private theorem handles_gather (picks : ∀ s d, (pick s d).isSome = o.picks s d) :
    handles generation o.picks 0 instructions =
      (gather generation pick instructions).map Placed.toHandle := by
  suffices from_index : ∀ index, handles generation o.picks index instructions =
      ((instructions.zipIdx index).filterMap fun t =>
        (pick t.1.selector t.1.drawing).map fun drawing =>
          (⟨⟨t.2, generation⟩, t.1.selector, t.1.order, drawing⟩ : Placed α)).map Placed.toHandle from
    from_index 0
  induction instructions with
  | nil => exact fun _ => rfl
  | cons i rest ih =>
    intro index
    rw [handles, ih, ← picks, List.zipIdx_cons, List.filterMap_cons]
    dsimp only
    cases pick i.selector i.drawing <;> rfl

theorem get?_gather {p : Placed α} (member : p ∈ gather generation pick instructions) :
    ∃ i, (ofInstructions generation instructions).get? p.toHandle = some i ∧
      i.selector = p.selector ∧ i.order = p.order ∧ pick i.selector i.drawing = some p.drawing := by
  obtain ⟨current, i, found, stored⟩ := mem_gather member
  refine ⟨i, ?_, stored⟩
  rw [arena_ofInstructions, Arena.get?, if_pos current]
  exact List.getElem?_toArray.trans found

theorem sortKey_gather {p : Placed α} (member : p ∈ gather generation pick instructions) :
    (ofInstructions generation instructions).sortKey p.toHandle = p.order := by
  obtain ⟨i, resolved, _, order, _⟩ := get?_gather pick member
  rw [Arena.sortKey, resolved, Option.elim_some, order]

/-- A list holds the handles of what it picks, in the order in which this is drawn. -/
theorem listed_ofInstructions (picks : ∀ s d, (pick s d).isSome = o.picks s d) :
    (ofInstructions generation instructions).listed o =
      (collect generation pick instructions).map Placed.toHandle := by
  have filed : (instructions.foldl add (empty generation)).listed o =
      (gather generation pick instructions).map Placed.toHandle := by
    have none : (empty generation).listed o = [] := by cases o <;> rfl
    rw [listed_foldl, none, List.nil_append]
    exact handles_gather pick o picks
  refine (listed_sort _ o).trans ?_
  rw [filed]
  exact (map_sortBy Placed.toHandle _ fun p => sortKey_gather pick).symm

/-- Nothing is lost on the way through the handles. -/
theorem entries_listed (picks : ∀ s d, (pick s d).isSome = o.picks s d)
    {project : Drawing → Option α} (same : ∀ s d x, pick s d = some x → project d = some x) :
    (ofInstructions generation instructions).entries o project =
      collect generation pick instructions := by
  rw [entries, listed_ofInstructions pick o picks, Arena.select, List.filterMap_map]
  refine (List.filterMap_congr fun p member => ?_).trans List.filterMap_some
  obtain ⟨i, resolved, selector, order, picked⟩ := get?_gather pick (mem_sortBy.mp member)
  rw [Function.comp_apply, resolved, Option.bind_some, if_pos rfl, selector, order,
    same _ _ _ picked]
  rfl

theorem select_listed (picks : ∀ s d, (pick s d).isSome = o.picks s d)
    {project : Drawing → Option α} (same : ∀ s d x, pick s d = some x → project d = some x)
    (keep : Selector → Bool) :
    (ofInstructions generation instructions).select
        ((ofInstructions generation instructions).listed o) project keep =
      (collect generation pick instructions).filter (keep ·.selector) := by
  rw [select_entries, entries_listed pick o picks same]

end Collecting

theorem listed_collect (generation : Nat) (instructions : List Instruction) (o : Output) :
    ∃ (α : Type) (pick : Selector → Drawing → Option α),
      (ofInstructions generation instructions).listed o =
          (collect generation pick instructions).map Placed.toHandle ∧
        ∀ s d, (pick s d).isSome = o.picks s d := by
  have of {α : Type} (pick : Selector → Drawing → Option α)
      (picks : ∀ s d, (pick s d).isSome = o.picks s d) :
      ∃ (α : Type) (pick : Selector → Drawing → Option α),
        (ofInstructions generation instructions).listed o =
            (collect generation pick instructions).map Placed.toHandle ∧
          ∀ s d, (pick s d).isSome = o.picks s d :=
    ⟨α, pick, listed_ofInstructions pick o picks, picks⟩
  cases o with
  | paths => exact of (fun _ => Drawing.path?) fun _ _ => rfl
  | circles => exact of (fun _ => Drawing.circle?) fun _ _ => rfl
  | pathLabels => exact of pathLabel? fun _ _ => rfl
  | pointLabels => exact of (caption? .node) fun _ _ => rfl
  | areaLabels => exact of (caption? .way) fun _ _ => rfl
  | symbols => exact of (fun _ => Drawing.symbol?) fun _ _ => rfl

theorem whole_ofInstructions (generation : Nat) (instructions : List Instruction) :
    (ofInstructions generation instructions).Whole := by
  intro o h member
  obtain ⟨α, pick, listed, picks⟩ := listed_collect generation instructions o
  rw [listed, List.mem_map] at member
  obtain ⟨p, inside, rfl⟩ := member
  obtain ⟨i, resolved, selector, _, picked⟩ := get?_gather pick (mem_sortBy.mp inside)
  refine ⟨i, resolved, holds_of_picks (s := i.selector) ?_⟩
  rw [← picks, picked, Option.isSome_some]

end Sheet

namespace Style
open Sheet

variable {s : Style} {generation : Nat} {instructions : List Instruction}

section Queries

variable (sheet : s.sheet = .ofInstructions generation instructions)
include sheet

theorem paths_collect (zoom : Nat) (closed : Bool) (tags : List Tag) :
    s.paths zoom closed tags = (collect generation (fun _ => Drawing.path?) instructions).filter
      (·.selector.acceptsWayAt zoom closed tags) := by
  rw [paths, sheet]
  exact select_listed _ .paths (fun _ _ => rfl) (fun _ _ _ => id) _

theorem circles_collect (zoom : Nat) (tags : List Tag) :
    s.circles zoom tags = (collect generation (fun _ => Drawing.circle?) instructions).filter
      (·.selector.acceptsNodeAt zoom tags) := by
  rw [circles, sheet]
  exact select_listed _ .circles (fun _ _ => rfl) (fun _ _ _ => id) _

theorem pathLabels_collect (zoom : Nat) :
    s.pathLabels zoom = (collect generation pathLabel? instructions).filter
      (·.selector.containsZoom zoom) := by
  rw [pathLabels, sheet]
  exact select_listed _ .pathLabels (fun _ _ => rfl) picked_along _

theorem pointLabels_collect (zoom : Nat) :
    s.pointLabels zoom = (collect generation (caption? .node) instructions).filter
      (·.selector.containsZoom zoom) := by
  rw [pointLabels, sheet]
  exact select_listed _ .pointLabels (fun _ _ => rfl) (picked_caption .node) _

theorem areaLabels_collect (zoom : Nat) :
    s.areaLabels zoom = (collect generation (caption? .way) instructions).filter
      (·.selector.containsZoom zoom) := by
  rw [areaLabels, sheet]
  exact select_listed _ .areaLabels (fun _ _ => rfl) (picked_caption .way) _

theorem pointSymbols_collect (zoom : Nat) :
    s.pointSymbols zoom = (collect generation (fun _ => Drawing.symbol?) instructions).filter
      fun p => p.selector.containsZoom zoom && p.selector.geometry.accepts .node := by
  rw [pointSymbols, sheet]
  exact select_listed _ .symbols (fun _ _ => rfl) (fun _ _ _ => id) _

theorem areaSymbols_collect (zoom : Nat) :
    s.areaSymbols zoom = (collect generation (fun _ => Drawing.symbol?) instructions).filter
      fun p => p.selector.containsZoom zoom && p.selector.geometry.accepts .way := by
  rw [areaSymbols, sheet]
  exact select_listed _ .symbols (fun _ _ => rfl) (fun _ _ _ => id) _

end Queries

theorem instructions_arranged {findings : List Finding}
    (sheet : s.sheet = .ofFindings generation findings) :
    s.sheet.instructions.toList = arrange 0 findings := by
  rw [sheet, instructions_ofFindings]

end Style
end MapTheme
