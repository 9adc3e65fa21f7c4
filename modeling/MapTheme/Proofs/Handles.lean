import MapTheme.Proofs.Filing

/-! Handles over a whole run of a style. A handle that a query returns names the very
instruction that it was returned with for as long as the style holds what it held then,
and nothing ever after: a generation that is over does not come back. -/
namespace MapTheme

inductive Rendering where
  | path (path : Path)
  | circle (circle : Circle)
  | text (label : Label)
  | symbol (symbol : Symbol)

def Drawing.rendering : Drawing → Rendering
  | .path p => .path p
  | .circle c => .circle c
  | .label _ l => .text l
  | .symbol s => .symbol s

structure Issued where
  handle : Handle
  selector : Selector
  order : Int
  rendering : Rendering

/-- Whether an instruction is the one that a handle was returned with. -/
def Issued.Names (e : Issued) (i : Instruction) : Prop :=
  i.selector = e.selector ∧ i.order = e.order ∧ i.drawing.rendering = e.rendering

inductive Query where
  | paths (zoom : Nat) (closed : Bool) (tags : List Tag)
  | circles (zoom : Nat) (tags : List Tag)
  | pathLabels (zoom : Nat)
  | pointLabels (zoom : Nat)
  | areaLabels (zoom : Nat)
  | pointSymbols (zoom : Nat)
  | areaSymbols (zoom : Nat)
  | labels (zoom : Nat) (kind : Kind) (closed : Bool) (tags : List Tag)
  | symbols (zoom : Nat) (kind : Kind) (closed : Bool) (tags : List Tag)

inductive Operation where
  | load (keys : Dictionary) (images : Images) (settings : Settings) (root : Element)
  | loadText (keys : Dictionary) (images : Images) (settings : Settings) (text : String)
  | clear
  | query (q : Query)

namespace Style

def issue {α : Type} (s : Style) (render : α → Rendering) (p : Placed α) : Issued :=
  ⟨s.handle p, p.selector, p.order, render p.drawing⟩

def answer (s : Style) : Query → List Issued
  | .paths zoom closed tags => (s.paths zoom closed tags).map (s.issue .path)
  | .circles zoom tags => (s.circles zoom tags).map (s.issue .circle)
  | .pathLabels zoom => (s.pathLabels zoom).map (s.issue .text)
  | .pointLabels zoom => (s.pointLabels zoom).map (s.issue .text)
  | .areaLabels zoom => (s.areaLabels zoom).map (s.issue .text)
  | .pointSymbols zoom => (s.pointSymbols zoom).map (s.issue .symbol)
  | .areaSymbols zoom => (s.areaSymbols zoom).map (s.issue .symbol)
  | .labels zoom kind closed tags => (s.labels zoom kind closed tags).map (s.issue .text)
  | .symbols zoom kind closed tags => (s.symbols zoom kind closed tags).map (s.issue .symbol)

def apply (s : Style) : Operation → Style
  | .load keys images settings root => (s.reload keys images settings root).1
  | .loadText keys images settings text => (s.reloadText keys images settings text).1
  | .clear => s.clear
  | .query _ => s

def replacedBy (s : Style) : Operation → Bool
  | .load keys images settings root => (s.reload keys images settings root).2.isOk
  | .loadText keys images settings text => (s.reloadText keys images settings text).2.isOk
  | .clear => true
  | .query _ => false

def run (s : Style) (ops : List Operation) : Style := ops.foldl apply s

/-- Whether nothing in a run is a clear or a load that succeeds. -/
def keptBy (s : Style) : List Operation → Bool
  | [] => true
  | op :: ops => !s.replacedBy op && (s.apply op).keptBy ops

/-- Whether a style is that of the load that it counts as the current one. -/
def Composed (s : Style) : Prop :=
  ∃ instructions, s.sheet = .ofInstructions s.generation instructions

variable {s : Style} {op : Operation} {ops : List Operation} {e : Issued} {q : Query}

/-- A load leaves the style alone, or puts another one of the next generation in its place. -/
theorem reload_cases (s : Style) (keys : Dictionary) (images : Images) (settings : Settings)
    (root : Element) :
    (s.reload keys images settings root).2.isOk = false ∧
        (s.reload keys images settings root).1 = s ∨
      (s.reload keys images settings root).2.isOk = true ∧
        (s.reload keys images settings root).1.generation = s.generation + 1 ∧
        (s.reload keys images settings root).1.Composed := by
  rw [reload]
  split
  · exact .inr ⟨rfl, rfl, _, rfl⟩
  · exact .inl ⟨rfl, rfl⟩

theorem apply_cases (s : Style) (op : Operation) :
    s.replacedBy op = false ∧ s.apply op = s ∨
      s.replacedBy op = true ∧ (s.apply op).generation = s.generation + 1 ∧
        (s.apply op).Composed := by
  cases op with
  | load keys images settings root => exact s.reload_cases keys images settings root
  | loadText keys images settings text =>
    rw [replacedBy, apply, reloadText]
    split
    · exact s.reload_cases keys images settings _
    · exact .inl ⟨rfl, rfl⟩
  | clear => exact .inr ⟨rfl, rfl, [], rfl⟩
  | query q => exact .inl ⟨rfl, rfl⟩

theorem apply_composed (composed : s.Composed) (op : Operation) : (s.apply op).Composed := by
  obtain ⟨_, same⟩ | ⟨_, _, replaced⟩ := s.apply_cases op
  · rwa [same]
  · exact replaced

theorem run_composed (composed : s.Composed) (ops : List Operation) : (s.run ops).Composed := by
  induction ops generalizing s with
  | nil => exact composed
  | cons op ops ih => exact ih (apply_composed composed op)

theorem generation_le_run (s : Style) (ops : List Operation) :
    s.generation ≤ (s.run ops).generation := by
  induction ops generalizing s with
  | nil => exact Nat.le_refl _
  | cons op ops ih =>
    have rest : (s.apply op).generation ≤ (s.run (op :: ops)).generation := ih (s.apply op)
    obtain ⟨_, same⟩ | ⟨_, next, _⟩ := s.apply_cases op
    · rwa [same] at rest
    · omega

theorem run_kept (kept : s.keptBy ops = true) : s.run ops = s := by
  induction ops generalizing s with
  | nil => rfl
  | cons op ops ih =>
    rw [keptBy, Bool.and_eq_true, Bool.not_eq_true'] at kept
    obtain ⟨_, same⟩ | ⟨replaced, _⟩ := s.apply_cases op
    · rw [same] at kept
      show (s.apply op).run ops = s
      rw [same, ih kept.2]
    · rw [kept.1] at replaced
      contradiction

theorem generation_lt_run (replaced : s.keptBy ops = false) :
    s.generation < (s.run ops).generation := by
  induction ops generalizing s with
  | nil => contradiction
  | cons op ops ih =>
    have rest : (s.apply op).generation ≤ (s.run (op :: ops)).generation :=
      generation_le_run (s.apply op) ops
    obtain ⟨left, same⟩ | ⟨_, next, _⟩ := s.apply_cases op
    · rw [keptBy, left, same] at replaced
      show s.generation < ((s.apply op).run ops).generation
      rw [same]
      exact ih replaced
    · omega

theorem generation_of_composed (composed : s.Composed) : s.sheet.generation = s.generation := by
  obtain ⟨instructions, sheet⟩ := composed
  rw [sheet, Sheet.arena_ofInstructions]

private theorem get?_of_older (composed : s.Composed) {h : Handle}
    (older : h.generation < s.generation) :
    s.get? h = none := by
  have other : h.generation ≠ s.sheet.generation := by
    rw [generation_of_composed composed]
    exact Nat.ne_of_lt older
  rw [get?, Arena.get?, if_neg other]

section Answers
open Sheet

variable {generation : Nat} {instructions : List Instruction}
  (sheet : s.sheet = .ofInstructions generation instructions)
include sheet

private theorem mem_labelCandidates {zoom : Nat} {kind : Kind} {closed : Bool} {p : Placed Label}
    (member : p ∈ s.labelCandidates zoom kind closed) :
    p ∈ collect generation pathLabel? instructions ∨
      p ∈ collect generation (caption? .node) instructions ∨
      p ∈ collect generation (caption? .way) instructions := by
  have along (inside : p ∈ s.pathLabels zoom) : p ∈ collect generation pathLabel? instructions := by
    rw [pathLabels_collect sheet] at inside
    exact (List.mem_filter.mp inside).1
  cases kind with
  | node =>
    rw [labelCandidates, pointLabels_collect sheet] at member
    exact .inr (.inl (List.mem_filter.mp member).1)
  | way =>
    cases closed with
    | false => exact .inl (along member)
    | true =>
      rcases List.mem_append.mp (mem_sortBy.mp member) with inside | inside
      · rw [areaLabels_collect sheet] at inside
        exact .inr (.inr (List.mem_filter.mp inside).1)
      · exact .inl (along inside)

private theorem mem_symbolCandidates {zoom : Nat} {kind : Kind} {closed : Bool} {p : Placed Symbol}
    (member : p ∈ s.symbolCandidates zoom kind closed) :
    p ∈ collect generation (fun _ => Drawing.symbol?) instructions := by
  cases kind with
  | node =>
    rw [symbolCandidates, pointSymbols_collect sheet] at member
    exact (List.mem_filter.mp member).1
  | way =>
    cases closed with
    | false => contradiction
    | true =>
      rw [symbolCandidates, areaSymbols_collect sheet] at member
      exact (List.mem_filter.mp member).1

private theorem mem_answer (member : e ∈ s.answer q) :
    (∃ p ∈ collect generation (fun _ => Drawing.path?) instructions, s.issue .path p = e) ∨
      (∃ p ∈ collect generation (fun _ => Drawing.circle?) instructions, s.issue .circle p = e) ∨
      (∃ p, (p ∈ collect generation pathLabel? instructions ∨
          p ∈ collect generation (caption? .node) instructions ∨
          p ∈ collect generation (caption? .way) instructions) ∧ s.issue .text p = e) ∨
      (∃ p ∈ collect generation (fun _ => Drawing.symbol?) instructions, s.issue .symbol p = e) := by
  cases q with
  | paths =>
    rw [answer, paths_collect sheet] at member
    obtain ⟨p, inside, same⟩ := List.mem_map.mp member
    exact .inl ⟨p, (List.mem_filter.mp inside).1, same⟩
  | circles =>
    rw [answer, circles_collect sheet] at member
    obtain ⟨p, inside, same⟩ := List.mem_map.mp member
    exact .inr (.inl ⟨p, (List.mem_filter.mp inside).1, same⟩)
  | pathLabels =>
    rw [answer, pathLabels_collect sheet] at member
    obtain ⟨p, inside, same⟩ := List.mem_map.mp member
    exact .inr (.inr (.inl ⟨p, .inl (List.mem_filter.mp inside).1, same⟩))
  | pointLabels =>
    rw [answer, pointLabels_collect sheet] at member
    obtain ⟨p, inside, same⟩ := List.mem_map.mp member
    exact .inr (.inr (.inl ⟨p, .inr (.inl (List.mem_filter.mp inside).1), same⟩))
  | areaLabels =>
    rw [answer, areaLabels_collect sheet] at member
    obtain ⟨p, inside, same⟩ := List.mem_map.mp member
    exact .inr (.inr (.inl ⟨p, .inr (.inr (List.mem_filter.mp inside).1), same⟩))
  | pointSymbols zoom =>
    obtain ⟨p, inside, same⟩ := List.mem_map.mp member
    have candidate : p ∈ s.symbolCandidates zoom .node false := inside
    exact .inr (.inr (.inr ⟨p, mem_symbolCandidates sheet candidate, same⟩))
  | areaSymbols zoom =>
    obtain ⟨p, inside, same⟩ := List.mem_map.mp member
    have candidate : p ∈ s.symbolCandidates zoom .way true := inside
    exact .inr (.inr (.inr ⟨p, mem_symbolCandidates sheet candidate, same⟩))
  | labels =>
    obtain ⟨p, inside, same⟩ := List.mem_map.mp member
    exact .inr (.inr (.inl ⟨p, mem_labelCandidates sheet (List.mem_filter.mp inside).1, same⟩))
  | symbols =>
    obtain ⟨p, inside, same⟩ := List.mem_map.mp member
    exact .inr (.inr (.inr ⟨p, mem_symbolCandidates sheet (List.mem_filter.mp inside).1, same⟩))

end Answers

/-- What is collected can be got by its handle. -/
theorem issue_collected {α : Type} {pick : Selector → Drawing → Option α} {render : α → Rendering}
    {instructions : List Instruction} (sheet : s.sheet = .ofInstructions s.generation instructions)
    (same : ∀ s d x, pick s d = some x → d.rendering = render x) {p : Placed α}
    (member : p ∈ Sheet.collect s.generation pick instructions) :
    p.generation = s.generation ∧
      ∃ i, s.get? (s.handle p) = some i ∧ (s.issue render p).Names i := by
  have inside := mem_sortBy.mp member
  obtain ⟨i, resolved, selector, order, picked⟩ := Sheet.get?_gather pick inside
  rw [← sheet] at resolved
  exact ⟨(Sheet.mem_gather inside).1, i, resolved, selector, order, same _ _ _ picked⟩

private theorem rendering_path (d : Drawing) (p : Path) (picked : d.path? = some p) :
    d.rendering = .path p := by
  cases d with
  | path own => rw [← Option.some.inj picked, Drawing.rendering]
  | _ => contradiction

private theorem rendering_circle (d : Drawing) (c : Circle) (picked : d.circle? = some c) :
    d.rendering = .circle c := by
  cases d with
  | circle own => rw [← Option.some.inj picked, Drawing.rendering]
  | _ => contradiction

private theorem rendering_symbol (d : Drawing) (y : Symbol) (picked : d.symbol? = some y) :
    d.rendering = .symbol y := by
  cases d with
  | symbol own => rw [← Option.some.inj picked, Drawing.rendering]
  | _ => contradiction

private theorem rendering_pathLabel (s : Selector) (d : Drawing) (l : Label)
    (picked : Sheet.pathLabel? s d = some l) : d.rendering = .text l := by
  rcases d with _ | _ | ⟨_ | _, own⟩ | _
  case label.along => rw [← Option.some.inj picked, Drawing.rendering]
  all_goals contradiction

private theorem rendering_caption (kind : Kind) (s : Selector) (d : Drawing) (l : Label)
    (picked : Sheet.caption? kind s d = some l) : d.rendering = .text l := by
  rcases d with _ | _ | ⟨_ | _, own⟩ | _
  case label.caption =>
    rw [Sheet.caption?] at picked
    split at picked
    · rw [← Option.some.inj picked, Drawing.rendering]
    · contradiction
  all_goals contradiction

/-- What a query returns can be got by its handle. -/
theorem answer_names (composed : s.Composed) (member : e ∈ s.answer q) :
    e.handle.generation = s.generation ∧ ∃ i, s.get? e.handle = some i ∧ e.Names i := by
  obtain ⟨instructions, sheet⟩ := composed
  obtain ⟨p, inside, rfl⟩ | ⟨p, inside, rfl⟩ | ⟨p, inside | inside | inside, rfl⟩ |
    ⟨p, inside, rfl⟩ := mem_answer sheet member
  · exact issue_collected sheet (fun _ => rendering_path) inside
  · exact issue_collected sheet (fun _ => rendering_circle) inside
  · exact issue_collected sheet rendering_pathLabel inside
  · exact issue_collected sheet (rendering_caption .node) inside
  · exact issue_collected sheet (rendering_caption .way) inside
  · exact issue_collected sheet (fun _ => rendering_symbol) inside

theorem new_composed : ({} : Style).Composed := ⟨[], rfl⟩

/-- A handle is good for as long as nothing replaces what it was issued of. -/
theorem handles_over_runs (before : List Operation) :
    let s := ({} : Style).run before
    (∀ q, ∀ e ∈ s.answer q, ∀ between,
      ((s.run between).get? e.handle).isSome = s.keptBy between ∧
        ∀ i, (s.run between).get? e.handle = some i → e.Names i) ∧
    (∀ op, s.replacedBy op = false →
      (s.apply op).generation = s.generation ∧ (s.apply op).isEmpty = s.isEmpty ∧
        (∀ q, (s.apply op).answer q = s.answer q) ∧ ∀ h, (s.apply op).get? h = s.get? h) ∧
    ∀ q, ∀ e ∈ s.answer q, ∀ between op after, (s.run between).replacedBy op = true →
      (((s.run between).apply op).run after).get? e.handle = none := by
  intro s
  have composed : s.Composed := run_composed new_composed before
  refine ⟨?_, ?_, ?_⟩
  · intro q e member between
    obtain ⟨current, i, found, names⟩ := answer_names composed member
    cases kept : s.keptBy between with
    | true =>
      -- The style is the same one still, so what was found then is found now.
      rw [run_kept kept, found]
      refine ⟨rfl, fun other same => ?_⟩
      rwa [← Option.some.inj same]
    | false =>
      have older : e.handle.generation < (s.run between).generation := by
        rw [current]
        exact generation_lt_run kept
      rw [get?_of_older (run_composed composed between) older]
      exact ⟨rfl, fun _ none => by contradiction⟩
  · intro op failed
    obtain ⟨_, same⟩ | ⟨replaced, _⟩ := s.apply_cases op
    · rw [same]
      exact ⟨rfl, rfl, fun _ => rfl, fun _ => rfl⟩
    · rw [failed] at replaced
      contradiction
  · intro q e member between op after replaced
    obtain ⟨current, _⟩ := answer_names composed member
    have reached := generation_le_run s between
    have later := generation_le_run ((s.run between).apply op) after
    obtain ⟨left, _⟩ | ⟨_, next, replacement⟩ := (s.run between).apply_cases op
    · rw [left] at replaced
      contradiction
    · exact get?_of_older (run_composed replacement after) (by omega)

def loadDots : Operation :=
  .loadText {} .none {} "<rendertheme><rule><circle r='2'/></rule></rendertheme>"

/-- A load of a text that is no document fails, and a clear does not. -/
theorem dot_handle :
    ∃ e ∈ (({} : Style).run [loadDots]).answer (.circles 10 []),
      (((({} : Style).run [loadDots]).run [.loadText {} .none {} "<rule"]).get? e.handle).isSome ∧
        ((({} : Style).run [loadDots]).run [.clear, loadDots]).get? e.handle = none := by
  obtain ⟨resolves, _, gone⟩ := handles_over_runs [loadDots]
  have some : 0 < ((({} : Style).run [loadDots]).answer (.circles 10 [])).length := by
    decide +kernel
  obtain ⟨e, member⟩ := List.exists_mem_of_length_pos some
  have kept : (({} : Style).run [loadDots]).keptBy [.loadText {} .none {} "<rule"] = true := by
    decide +kernel
  refine ⟨e, member, ?_, gone _ e member [] .clear [loadDots] rfl⟩
  rw [(resolves _ e member _).1, kept]

end Style
end MapTheme
