import Mathlib.Data.List.Nodup
import MapTheme.Proofs.Edition
import MapTheme.Proofs.Selection

/-! How a style represents what it holds. Each handle in its six lists is of the style's
own generation and names an instruction of the kind that the list is of, so a query leaves
out nothing but what it does not ask for. Every instruction stands in the lists that it is
for, and in each of these once. -/
namespace MapTheme

namespace Instruction

/-- Whether an instruction is a caption for features of both kinds. -/
def suitsBoth (i : Instruction) : Prop :=
  i.selector.geometry = .any ∧ ∃ l, i.drawing = .label .caption l

/-- The lists that an instruction is for. -/
def outputs (i : Instruction) : List Output :=
  match i.drawing with
  | .path _ => [.paths]
  | .circle _ => [.circles]
  | .label .along _ => [.pathLabels]
  | .label .caption _ =>
    match i.selector.geometry with
    | .any => [.pointLabels, .areaLabels]
    | .node => [.pointLabels]
    | .way => [.areaLabels]
    | .never => []
  | .symbol _ => [.symbols]

/-- Whether some feature can show an instruction, as far as its kind goes. -/
def Possible (i : Instruction) : Prop :=
  ∀ l, i.drawing = .label .caption l → i.selector.geometry ≠ .never

private theorem picks_iff {o : Output} {i : Instruction} :
    o.picks i.selector i.drawing = true ↔ o ∈ i.outputs := by
  obtain ⟨s, d, order⟩ := i
  rcases d with p | c | ⟨_ | _, l⟩ | y
  case label.caption =>
    cases geometry : s.geometry <;> cases o <;>
      simp [Output.picks, Sheet.pathLabel?, Sheet.caption?, Drawing.path?, Drawing.circle?,
        Drawing.symbol?, outputs, geometry, Geometry.accepts]
  all_goals
    cases o <;>
      simp [Output.picks, Sheet.pathLabel?, Sheet.caption?, Drawing.path?, Drawing.circle?,
        Drawing.symbol?, outputs]

private theorem holds_of_output {i : Instruction} {o : Output} (member : o ∈ i.outputs) :
    o.holds i.drawing = true := Sheet.holds_of_picks (picks_iff.mpr member)

private theorem outputs_of_suitsBoth {i : Instruction} (both : i.suitsBoth) :
    i.outputs = [.pointLabels, .areaLabels] := by
  obtain ⟨geometry, l, drawing⟩ := both
  simp [outputs, drawing, geometry]

private theorem outputs_single {i : Instruction} (possible : i.Possible) (one : ¬ i.suitsBoth) :
    ∃ o, i.outputs = [o] := by
  obtain ⟨s, d, order⟩ := i
  rcases d with p | c | ⟨_ | _, l⟩ | y
  case label.caption =>
    have able : s.geometry ≠ .never := possible l rfl
    have notBoth : s.geometry ≠ .any := fun any => one ⟨any, l, rfl⟩
    cases geometry : s.geometry <;> simp_all [outputs]
  all_goals exact ⟨_, rfl⟩

end Instruction

/-- What every selector keeps to: it addresses no level that there is not, and keeps no
filter that visibly admits everything. -/
def Selector.Tight (s : Selector) : Prop :=
  s.zooms.greatest ≤ maxZoom ∧ ∀ f ∈ s.filters, f.isTautology = false

namespace Selector

private theorem tight_default :
    Selector.Tight {} := ⟨Nat.le_refl _, fun _ absent => by contradiction⟩

private theorem tight_addFilter {s : Selector} (tight : s.Tight) (f : TagFilter) :
    (s.addFilter f).Tight := by
  rw [addFilter]
  split
  · exact tight
  · next kept =>
    refine ⟨tight.1, fun g member => ?_⟩
    rcases List.mem_append.mp member with old | new
    · exact tight.2 g old
    · rw [List.mem_singleton.mp new]
      exact Bool.eq_false_iff.mpr kept

private theorem tight_refine {s : Selector} (tight : s.Tight) (d : Declared) :
    (s.refine d).Tight := by
  have narrowed : (((s.narrowGeometry (d.geometry.getD .any)).narrowOutline
      (d.outline.getD .any)).narrowZooms d.least d.greatest).Tight := by
    refine ⟨?_, tight.2⟩
    have bound : s.zooms.greatest ≤ maxZoom := tight.1
    cases d.greatest with
    | none => exact bound
    | some greatest => exact Nat.le_trans (Nat.min_le_left _ _) bound
  rw [refine]
  cases d.filter with
  | none => exact narrowed
  | some f => exact tight_addFilter narrowed f

private theorem tight_foldl (w : Workshop) {s : Selector} (tight : s.Tight) (trail : List Element) :
    (trail.foldl (fun s e => s.refine (w.declared e)) s).Tight := by
  induction trail generalizing s with
  | nil => exact tight
  | cons e trail ih => exact ih (tight_refine tight (w.declared e))

end Selector

private theorem accepts_of_caption {kind : Kind} {s : Selector} {d : Drawing}
    (picked : (Sheet.caption? kind s d).isSome = true) : s.geometry.accepts kind = true := by
  rcases d with p | c | ⟨_ | _, l⟩ | y
  case label.caption =>
    rw [Sheet.caption?] at picked
    split at picked
    · next able => exact able
    · contradiction
  all_goals contradiction

private theorem Workshop.drawn_possible {w : Workshop} {p : Place} {s : Selector} {d : Drawing}
    (drawn : w.drawnAt? p = some (s, d)) :
    s.Tight ∧ ∀ l, d = .label .caption l → s.geometry ≠ .never := by
  rw [drawnAt?] at drawn
  split at drawn
  · obtain ⟨own, made, same⟩ := Option.map_eq_some_iff.mp drawn
    obtain ⟨rfl, rfl⟩ := Prod.mk.inj same
    refine ⟨Selector.tight_foldl w Selector.tight_default p.trail, fun l caption never => ?_⟩
    subst caption
    revert made
    fun_cases w.drawing? (w.selector p.trail) p.element <;> simp_all
  · contradiction

namespace Sheet

variable {α : Type} {generation : Nat} {pick : Selector → Drawing → Option α}
  {instructions : List Instruction}

/-- An instruction is in a list if the list picks it, at its own index. -/
theorem index_collected (generation : Nat) (pick : Selector → Drawing → Option α)
    (instructions : List Instruction) (index : Nat) :
    (∃ p ∈ collect generation pick instructions, p.index = index) ↔
      ∃ i, instructions[index]? = some i ∧ (pick i.selector i.drawing).isSome = true := by
  constructor
  · rintro ⟨p, member, rfl⟩
    obtain ⟨_, i, found, _, _, picked⟩ := mem_gather (mem_sortBy.mp member)
    exact ⟨i, found, by rw [picked, Option.isSome_some]⟩
  · rintro ⟨i, found, picked⟩
    obtain ⟨x, made⟩ := Option.isSome_iff_exists.mp picked
    refine ⟨⟨⟨index, generation⟩, i.selector, i.order, x⟩, mem_sortBy.mpr ?_, rfl⟩
    refine List.mem_filterMap.mpr ⟨(i, index), List.mem_zipIdx_iff_getElem?.mpr found, ?_⟩
    show (pick i.selector i.drawing).map _ = _
    rw [made, Option.map_some]

theorem collect_nodup : ((collect generation pick instructions).map (·.index)).Nodup := by
  have indices : (gather generation pick instructions).Pairwise (·.index < ·.index) :=
    gather_indices instructions
  refine ((sortBy_perm (gather generation pick instructions)).map (·.index)).nodup_iff.mpr ?_
  exact List.pairwise_map.mpr (indices.imp Nat.ne_of_lt)

end Sheet

namespace Style
open Sheet

/-- Whether a result is the instruction that its handle names. -/
def Stored {α : Type} (s : Style) (project : Drawing → Option α) (p : Placed α) : Prop :=
  ∃ i, s.get? (s.handle p) = some i ∧ i.selector = p.selector ∧ i.order = p.order ∧
    project i.drawing = some p.drawing

/-- Whether results are what handles name, one for each of them whose instruction is asked
for. A handle that did not resolve, or not to an instruction of the right kind, would have
to be among those of the results. -/
structure Answers {α : Type} (s : Style) (handles : List Handle) (project : Drawing → Option α)
    (keep : Selector → α → Bool) (ps : List (Placed α)) : Prop where
  whole : ps.map s.handle = handles.filter fun h =>
    (s.get? h).all fun i => (project i.drawing).all (keep i.selector)
  stored : ∀ p ∈ ps, s.Stored project p

def labelHandles (s : Style) : Kind → Bool → List Handle
  | .node, _ => s.sheet.pointLabels
  | .way, true => sortBy s.sheet.sortKey (s.sheet.areaLabels ++ s.sheet.pathLabels)
  | .way, false => s.sheet.pathLabels

def symbolHandles (s : Style) : Kind → Bool → List Handle
  | .node, _ => s.sheet.symbols
  | .way, true => s.sheet.symbols
  | .way, false => []

/-- The representation invariant. -/
structure Sound (s : Style) : Prop where
  generation : s.sheet.generation = s.generation
  current : ∀ o, ∀ h ∈ s.sheet.listed o, h.generation = s.generation
  inside : ∀ o, ∀ h ∈ s.sheet.listed o, h.index < s.sheet.instructions.size
  once : ∀ o, (s.sheet.listed o).Nodup
  resolves : ∀ o, ∀ h ∈ s.sheet.listed o,
    ∃ i, s.get? h = some i ∧ o.holds i.drawing = true ∧ s.sheet.sortKey h = i.order
  sorted : ∀ o, Ascending s.sheet.sortKey (s.sheet.listed o)
  paths : ∀ zoom closed tags, s.Answers s.sheet.paths Drawing.path?
    (fun r _ => r.acceptsWayAt zoom closed tags) (s.paths zoom closed tags)
  circles : ∀ zoom tags, s.Answers s.sheet.circles Drawing.circle?
    (fun r _ => r.acceptsNodeAt zoom tags) (s.circles zoom tags)
  pathLabels : ∀ zoom, s.Answers s.sheet.pathLabels Drawing.label?
    (fun r _ => r.containsZoom zoom) (s.pathLabels zoom)
  pointLabels : ∀ zoom, s.Answers s.sheet.pointLabels Drawing.label?
    (fun r _ => r.containsZoom zoom) (s.pointLabels zoom)
  areaLabels : ∀ zoom, s.Answers s.sheet.areaLabels Drawing.label?
    (fun r _ => r.containsZoom zoom) (s.areaLabels zoom)
  pointSymbols : ∀ zoom, s.Answers s.sheet.symbols Drawing.symbol?
    (fun r _ => r.containsZoom zoom && r.geometry.accepts .node) (s.pointSymbols zoom)
  areaSymbols : ∀ zoom, s.Answers s.sheet.symbols Drawing.symbol?
    (fun r _ => r.containsZoom zoom && r.geometry.accepts .way) (s.areaSymbols zoom)
  labels : ∀ zoom kind closed tags, s.Answers (s.labelHandles kind closed) Drawing.label?
    (fun r l => r.accepts zoom kind closed tags && tags.any (·.key = l.key))
    (s.labels zoom kind closed tags)
  symbols : ∀ zoom kind closed tags, s.Answers (s.symbolHandles kind closed) Drawing.symbol?
    (fun r _ => r.accepts zoom kind closed tags) (s.symbols zoom kind closed tags)
  alone : ∀ h i, s.get? h = some i → ¬ i.suitsBoth →
    ∃ only, ∀ o, h ∈ s.sheet.listed o ↔ o = only
  twice : ∀ h i, s.get? h = some i → i.suitsBoth →
    ∀ o, h ∈ s.sheet.listed o ↔ o = .pointLabels ∨ o = .areaLabels
  points : ∀ h ∈ s.sheet.pointLabels, ∃ i, s.get? h = some i ∧
    (i.selector.geometry = .any ∨ i.selector.geometry = .node)
  areas : ∀ h ∈ s.sheet.areaLabels, ∃ i, s.get? h = some i ∧
    (i.selector.geometry = .any ∨ i.selector.geometry = .way)
  tight : ∀ i ∈ s.sheet.instructions, i.selector.Tight

variable {α : Type} {s : Style} {instructions : List Instruction} {o : Output} {h : Handle}
  {project : Drawing → Option α}

private theorem get?_inside {i : Instruction} (composed : s.Composed)
    (resolved : s.get? h = some i) :
    h.generation = s.generation ∧ h.index < s.sheet.instructions.size ∧
      i ∈ s.sheet.instructions := by
  rw [get?, Arena.get?, generation_of_composed composed] at resolved
  split at resolved
  · next current =>
    obtain ⟨inside, _⟩ := Array.getElem?_eq_some_iff.mp resolved
    exact ⟨current, inside, Array.mem_of_getElem? resolved⟩
  · contradiction

private theorem answers_of_stored {ps : List (Placed α)} (stored : ∀ p ∈ ps, s.Stored project p)
    (keep : Selector → α → Bool) :
    s.Answers (ps.map Placed.toHandle) project keep
      (ps.filter fun p => keep p.selector p.drawing) where
  whole := by
    rw [List.filter_map]
    refine congrArg (List.map Placed.toHandle) (List.filter_congr fun p member => ?_)
    obtain ⟨i, resolved, selector, _, picked⟩ := stored p member
    have found : s.get? p.toHandle = some i := resolved
    rw [Function.comp_apply, found, Option.all_some, picked, Option.all_some, selector]
  stored p member := stored p (List.mem_filter.mp member).1

section Listed

variable (sheet : s.sheet = .ofInstructions s.generation instructions)
include sheet

private theorem get?_eq_some {i : Instruction} :
    s.get? h = some i ↔ h.generation = s.generation ∧ instructions[h.index]? = some i := by
  rw [get?, sheet, arena_ofInstructions, Arena.get?]
  split
  · next current => simp [current]
  · next other => simp [other]

private theorem listed_eq (pick : Selector → Drawing → Option α) (o : Output)
    (picks : ∀ s d, (pick s d).isSome = o.picks s d) :
    s.sheet.listed o = (collect s.generation pick instructions).map Placed.toHandle := by
  rw [sheet]
  exact listed_ofInstructions pick o picks

theorem mem_listed : h ∈ s.sheet.listed o ↔ ∃ i, s.get? h = some i ∧ o ∈ i.outputs := by
  obtain ⟨α, pick, listed, picks⟩ := listed_collect s.generation instructions o
  rw [← sheet] at listed
  have indices := index_collected s.generation pick instructions h.index
  simp only [picks, Instruction.picks_iff] at indices
  rw [listed, List.mem_map]
  constructor
  · rintro ⟨p, member, rfl⟩
    obtain ⟨i, found, output⟩ := indices.mp ⟨p, member, rfl⟩
    exact ⟨i, (get?_eq_some sheet).mpr ⟨(mem_gather (mem_sortBy.mp member)).1, found⟩, output⟩
  · rintro ⟨i, resolved, output⟩
    obtain ⟨current, found⟩ := (get?_eq_some sheet).mp resolved
    obtain ⟨p, member, index⟩ := indices.mpr ⟨i, found, output⟩
    have sameGeneration : p.generation = h.generation :=
      (mem_gather (mem_sortBy.mp member)).1.trans current.symm
    exact ⟨p, member, Handle.ext index sameGeneration⟩

private theorem listed_nodup (o : Output) : (s.sheet.listed o).Nodup := by
  obtain ⟨α, pick, listed, _⟩ := listed_collect s.generation instructions o
  rw [← sheet] at listed
  have indices : ((collect s.generation pick instructions).map (·.index)).Nodup := collect_nodup
  rw [listed]
  refine List.Nodup.of_map (·.index) ?_
  rwa [List.map_map]

private theorem listed_sorted (o : Output) : Ascending s.sheet.sortKey (s.sheet.listed o) := by
  rw [sheet, Sheet.ofInstructions, listed_sort]
  exact sortBy_ascending _

/-- An instruction stands in the lists that it is for and in no other ones. -/
theorem listed_iff {i : Instruction} (resolved : s.get? h = some i) (o : Output) :
    h ∈ s.sheet.listed o ↔ o ∈ i.outputs := by
  rw [mem_listed sheet]
  refine ⟨?_, fun output => ⟨i, resolved, output⟩⟩
  rintro ⟨other, same, output⟩
  rw [resolved] at same
  rwa [Option.some.inj same]

section Queries

variable (pick : Selector → Drawing → Option α)
  (same : ∀ s d x, pick s d = some x → project d = some x)
include same

theorem stored_collect {p : Placed α} (member : p ∈ collect s.generation pick instructions) :
    s.Stored project p := by
  obtain ⟨i, resolved, selector, order, picked⟩ := get?_gather pick (mem_sortBy.mp member)
  rw [← sheet] at resolved
  exact ⟨i, resolved, selector, order, same _ _ _ picked⟩

private theorem answers_listed (o : Output) (picks : ∀ s d, (pick s d).isSome = o.picks s d)
    (keep : Selector → α → Bool) :
    s.Answers (s.sheet.listed o) project keep
      ((collect s.generation pick instructions).filter fun p => keep p.selector p.drawing) := by
  rw [listed_eq sheet pick o picks]
  exact answers_of_stored (fun p => stored_collect sheet pick same) keep

end Queries

private theorem sorted_labels :
    s.labelHandles .way true =
      (sortBy (·.order) (collect s.generation (caption? .way) instructions ++
        collect s.generation pathLabel? instructions)).map Placed.toHandle := by
  have areas := listed_eq sheet (caption? .way) .areaLabels fun _ _ => rfl
  have along := listed_eq sheet pathLabel? .pathLabels fun _ _ => rfl
  have keys : ∀ p ∈ collect s.generation (caption? .way) instructions ++
      collect s.generation pathLabel? instructions, s.sheet.sortKey p.toHandle = p.order := by
    intro p member
    rw [sheet]
    rcases List.mem_append.mp member with inside | inside
    · exact sortKey_gather _ (mem_sortBy.mp inside)
    · exact sortKey_gather _ (mem_sortBy.mp inside)
  rw [map_sortBy Placed.toHandle _ keys, List.map_append, ← areas, ← along]
  rfl

theorem labels_answer (zoom : Nat) (kind : Kind) (closed : Bool) (tags : List Tag) :
    s.Answers (s.labelHandles kind closed) Drawing.label?
      (fun r l => r.accepts zoom kind closed tags && tags.any (·.key = l.key))
      (s.labels zoom kind closed tags) := by
  have along : (s.pathLabels zoom).filter (·.shown zoom kind closed tags) =
      (collect s.generation pathLabel? instructions).filter (·.shown zoom kind closed tags) := by
    rw [pathLabels_collect sheet]
    exact filter_shown zoom kind closed tags _
  cases kind with
  | node =>
    have nodes : s.labels zoom .node closed tags =
        (collect s.generation (caption? .node) instructions).filter
          (·.shown zoom .node closed tags) := by
      rw [labels, labelCandidates, pointLabels_collect sheet]
      exact filter_shown zoom .node closed tags _
    rw [nodes]
    exact answers_listed sheet _ (picked_caption .node) .pointLabels (fun _ _ => rfl) _
  | way =>
    cases closed with
    | false =>
      have ways : s.labels zoom .way false tags = _ := along
      rw [ways]
      exact answers_listed sheet _ picked_along .pathLabels (fun _ _ => rfl) _
    | true =>
      -- What is shown of two lists that were merged is what is shown of each, merged.
      have merged : s.labels zoom .way true tags =
          (sortBy (·.order) (collect s.generation (caption? .way) instructions ++
            collect s.generation pathLabel? instructions)).filter (·.shown zoom .way true tags) := by
        refine (filter_sortBy _ (s.areaLabels zoom ++ s.pathLabels zoom)).trans ?_
        rw [filter_sortBy, List.filter_append, List.filter_append, areaLabels_collect sheet]
        exact congrArg (sortBy _) (congr (congrArg HAppend.hAppend (filter_shown ..)) along)
      rw [merged, sorted_labels sheet]
      refine answers_of_stored (fun p member => ?_) _
      rcases List.mem_append.mp (mem_sortBy.mp member) with inside | inside
      · exact stored_collect sheet _ (picked_caption .way) inside
      · exact stored_collect sheet _ picked_along inside

theorem symbols_answer (zoom : Nat) (kind : Kind) (closed : Bool) (tags : List Tag) :
    s.Answers (s.symbolHandles kind closed) Drawing.symbol?
      (fun r _ => r.accepts zoom kind closed tags) (s.symbols zoom kind closed tags) := by
  have all := answers_listed sheet (fun _ => Drawing.symbol?) (fun _ _ _ => id) .symbols
    (fun _ _ => rfl) fun r _ => r.accepts zoom kind closed tags
  rw [← filter_accepted] at all
  cases kind with
  | node =>
    rw [← pointSymbols_collect sheet] at all
    exact all
  | way =>
    cases closed with
    | false => exact ⟨rfl, fun p absent => by contradiction⟩
    | true =>
      rw [← areaSymbols_collect sheet] at all
      exact all

end Listed

private theorem stored_selector {i : Instruction} {held : Option Edition} (holds : s.Holds held)
    (member : i ∈ s.sheet.instructions) : i.selector.Tight ∧ i.Possible := by
  have drawn : (i.selector, i.drawing) ∈ held.elim [] Edition.drawn := by
    rw [← instructions_drawn holds]
    exact List.mem_map.mpr ⟨i, Array.mem_toList_iff.mpr member, rfl⟩
  cases held with
  | none => contradiction
  | some e =>
    obtain ⟨p, _, made⟩ := List.mem_filterMap.mp drawn
    exact Workshop.drawn_possible made

theorem sound_of_holds {held : Option Edition} (holds : s.Holds held) : s.Sound := by
  have sheet : s.sheet = .ofInstructions s.generation (arrange 0 (held.elim [] Edition.findings)) :=
    holds
  have composed : s.Composed := ⟨_, sheet⟩
  have resolve {o : Output} {h : Handle} (member : h ∈ s.sheet.listed o) :
      ∃ i, s.get? h = some i ∧ o ∈ i.outputs := (mem_listed sheet).mp member
  constructor
  case generation => exact generation_of_composed composed
  case current =>
    intro o h member
    obtain ⟨i, resolved, _⟩ := resolve member
    exact (get?_inside composed resolved).1
  case inside =>
    intro o h member
    obtain ⟨i, resolved, _⟩ := resolve member
    exact (get?_inside composed resolved).2.1
  case once => exact listed_nodup sheet
  case resolves =>
    intro o h member
    obtain ⟨i, resolved, output⟩ := resolve member
    refine ⟨i, resolved, Instruction.holds_of_output output, ?_⟩
    rw [Arena.sortKey, ← get?, resolved, Option.elim_some]
  case sorted => exact listed_sorted sheet
  case paths =>
    intro zoom closed tags
    rw [paths_collect sheet]
    exact answers_listed sheet (fun _ => Drawing.path?) (fun _ _ _ => id) .paths (fun _ _ => rfl) _
  case circles =>
    intro zoom tags
    rw [circles_collect sheet]
    exact answers_listed sheet (fun _ => Drawing.circle?) (fun _ _ _ => id) .circles
      (fun _ _ => rfl) _
  case pathLabels =>
    intro zoom
    rw [pathLabels_collect sheet]
    exact answers_listed sheet _ picked_along .pathLabels (fun _ _ => rfl) _
  case pointLabels =>
    intro zoom
    rw [pointLabels_collect sheet]
    exact answers_listed sheet _ (picked_caption .node) .pointLabels (fun _ _ => rfl) _
  case areaLabels =>
    intro zoom
    rw [areaLabels_collect sheet]
    exact answers_listed sheet _ (picked_caption .way) .areaLabels (fun _ _ => rfl) _
  case pointSymbols =>
    intro zoom
    rw [pointSymbols_collect sheet]
    exact answers_listed sheet (fun _ => Drawing.symbol?) (fun _ _ _ => id) .symbols
      (fun _ _ => rfl) _
  case areaSymbols =>
    intro zoom
    rw [areaSymbols_collect sheet]
    exact answers_listed sheet (fun _ => Drawing.symbol?) (fun _ _ _ => id) .symbols
      (fun _ _ => rfl) _
  case labels => exact labels_answer sheet
  case symbols => exact symbols_answer sheet
  case alone =>
    intro h i resolved one
    obtain ⟨_, _, member⟩ := get?_inside composed resolved
    obtain ⟨only, outputs⟩ := Instruction.outputs_single (stored_selector holds member).2 one
    refine ⟨only, fun o => ?_⟩
    rw [listed_iff sheet resolved, outputs, List.mem_singleton]
  case twice =>
    intro h i resolved both o
    rw [listed_iff sheet resolved, Instruction.outputs_of_suitsBoth both]
    simp
  case points =>
    intro h member
    obtain ⟨i, resolved, output⟩ : ∃ i, s.get? h = some i ∧ .pointLabels ∈ i.outputs :=
      resolve member
    have able : i.selector.geometry.accepts .node = true :=
      accepts_of_caption (Instruction.picks_iff.mpr output)
    refine ⟨i, resolved, ?_⟩
    cases geometry : i.selector.geometry <;> simp_all [Geometry.accepts]
  case areas =>
    intro h member
    obtain ⟨i, resolved, output⟩ : ∃ i, s.get? h = some i ∧ .areaLabels ∈ i.outputs :=
      resolve member
    have able : i.selector.geometry.accepts .way = true :=
      accepts_of_caption (Instruction.picks_iff.mpr output)
    refine ⟨i, resolved, ?_⟩
    cases geometry : i.selector.geometry <;> simp_all [Geometry.accepts]
  case tight =>
    intro i member
    exact (stored_selector holds member).1

/-- The invariant holds of every style that there can be. -/
theorem run_sound (ops : List Operation) : (({} : Style).run ops).Sound :=
  sound_of_holds (run_holds new_holds ops)

end Style
end MapTheme
