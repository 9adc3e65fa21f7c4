import Mathlib.Data.List.Sort
import MapTheme.Proofs.Place
import MapTheme.Style

/-! From the places of a theme to the lists of its sheet. The entries of a list stand
in document order before they are sorted, and each is the instruction at its index. A
list of paths or circles needs no sorting, since these are numbered as they come. -/
namespace MapTheme

def Drawing.isShape (d : Drawing) : Bool := d.priority?.isNone

theorem map_arrange (next : Nat) (findings : List Finding) :
    (arrange next findings).map (fun i => (i.selector, i.drawing)) =
      findings.filterMap Finding.drawn? := by
  induction findings generalizing next with
  | nil => rfl
  | cons finding rest ih =>
    cases finding with
    | notice n => exact ih next
    | unplaceable => exact ih next
    | drawn selector drawing =>
      rw [arrange, List.filterMap_cons_some (by rfl : Finding.drawn? _ = some (selector, drawing))]
      split <;> rw [List.map_cons, ih]

/-- Nothing is numbered but what is drawn. -/
theorem arrange_drawn (next : Nat) (findings : List Finding) :
    arrange next findings =
      arrange next ((findings.filterMap Finding.drawn?).map fun drawn => .drawn drawn.1 drawn.2) := by
  induction findings generalizing next with
  | nil => rfl
  | cons finding rest ih =>
    cases finding with
    | notice n => exact ih next
    | unplaceable => exact ih next
    | drawn selector drawing =>
      rw [List.filterMap_cons_some (by rfl : Finding.drawn? _ = some (selector, drawing)),
        List.map_cons]
      dsimp only
      rw [arrange, arrange]
      split <;> rw [← ih]

private theorem order_arrange {next : Nat} {findings : List Finding} {i : Instruction}
    (member : i ∈ arrange next findings) {priority : Int}
    (given : i.drawing.priority? = some priority) : i.order = priority := by
  induction findings generalizing next with
  | nil => simp [arrange] at member
  | cons finding rest ih =>
    cases finding with
    | notice n => exact ih member
    | unplaceable => exact ih member
    | drawn selector drawing =>
      rw [arrange] at member
      split at member
      · next own =>
        rcases List.mem_cons.mp member with rfl | inside
        · exact Option.some.inj (own.symm.trans given)
        · exact ih inside
      · next none =>
        rcases List.mem_cons.mp member with rfl | inside
        · rw [none] at given
          contradiction
        · exact ih inside

/-- What has none is numbered without a gap, in document order. -/
theorem shapes_arrange (next : Nat) (findings : List Finding) :
    (arrange next findings).filter (·.drawing.isShape) =
      (((findings.filterMap Finding.drawn?).filter (·.2.isShape)).zipIdx next).map
        fun entry => ⟨entry.1.1, entry.1.2, entry.2⟩ := by
  induction findings generalizing next with
  | nil => rfl
  | cons finding rest ih =>
    cases finding with
    | notice n => exact ih next
    | unplaceable => exact ih next
    | drawn selector drawing =>
      rw [arrange, List.filterMap_cons_some (by rfl : Finding.drawn? _ = some (selector, drawing))]
      split
      · next priority own =>
        have other : drawing.isShape = false := by simp [Drawing.isShape, own]
        simp only [List.filter_cons, other, Bool.false_eq_true, if_false, ih]
      · next none =>
        have shape : drawing.isShape = true := by simp [Drawing.isShape, none]
        simp only [List.filter_cons, shape, if_true, List.zipIdx_cons, List.map_cons, ih]

private theorem zipIdx_ascending {α : Type} (items : List α) (next : Nat) :
    (items.zipIdx next).Pairwise (·.2 < ·.2) := by
  have numbers : ((items.zipIdx next).map Prod.snd).Pairwise (· < ·) := by
    rw [List.zipIdx_map_snd]
    exact List.pairwise_lt_range'
  exact List.pairwise_map.mp numbers

private theorem arrange_ascending (next : Nat) (findings : List Finding) :
    (arrange next findings).Pairwise fun i j =>
      i.drawing.isShape = true → j.drawing.isShape = true → i.order < j.order := by
  rw [← List.pairwise_filter, shapes_arrange, List.pairwise_map]
  exact (zipIdx_ascending _ next).imp Int.ofNat_lt.mpr

namespace Sheet

variable {α β : Type} (generation : Nat) (pick : Selector → Drawing → Option α)

/-- What a list holds, in document order. -/
def gather (instructions : List Instruction) : List (Placed α) :=
  instructions.zipIdx.filterMap fun (i, index) =>
    (pick i.selector i.drawing).map fun drawing =>
      ⟨⟨index, generation⟩, i.selector, i.order, drawing⟩

/-- What a list holds, in the order in which it is drawn. -/
def collect (instructions : List Instruction) : List (Placed α) :=
  sortBy (·.order) (gather generation pick instructions)

variable {generation pick}

theorem mem_gather {instructions : List Instruction} {p : Placed α}
    (member : p ∈ gather generation pick instructions) :
    p.generation = generation ∧ ∃ i, instructions[p.index]? = some i ∧
      i.selector = p.selector ∧ i.order = p.order ∧ pick i.selector i.drawing = some p.drawing := by
  obtain ⟨⟨i, index⟩, inside, picked⟩ := List.mem_filterMap.mp member
  obtain ⟨drawing, found, rfl⟩ := Option.map_eq_some_iff.mp picked
  exact ⟨rfl, i, List.mem_zipIdx_iff_getElem?.mp inside, rfl, rfl, found⟩

theorem gather_indices (instructions : List Instruction) :
    (gather generation pick instructions).Pairwise (·.index < ·.index) := by
  rw [gather, List.pairwise_filterMap]
  refine (zipIdx_ascending instructions 0).imp fun less p first q second => ?_
  obtain ⟨_, _, rfl⟩ := Option.map_eq_some_iff.mp first
  obtain ⟨_, _, rfl⟩ := Option.map_eq_some_iff.mp second
  exact less

theorem gather_orders (shapes : ∀ s d x, pick s d = some x → d.isShape = true) (next : Nat)
    (findings : List Finding) :
    (gather generation pick (arrange next findings)).Pairwise (·.order < ·.order) := by
  have orders := arrange_ascending next findings
  rw [← List.zipIdx_map_fst 0 (arrange next findings), List.pairwise_map] at orders
  rw [gather, List.pairwise_filterMap]
  refine orders.imp fun less p first q second => ?_
  obtain ⟨_, left, rfl⟩ := Option.map_eq_some_iff.mp first
  obtain ⟨_, right, rfl⟩ := Option.map_eq_some_iff.mp second
  exact less (shapes _ _ _ left) (shapes _ _ _ right)

theorem gather_priority {priority : α → Int}
    (given : ∀ s d x, pick s d = some x → d.priority? = some (priority x)) {next : Nat}
    {findings : List Finding} {p : Placed α}
    (member : p ∈ gather generation pick (arrange next findings)) :
    p.order = priority p.drawing := by
  obtain ⟨_, i, found, _, order, picked⟩ := mem_gather member
  rw [← order, order_arrange (List.mem_of_getElem? found) (given _ _ _ picked)]

theorem collect_shapes (shapes : ∀ s d x, pick s d = some x → d.isShape = true) (next : Nat)
    (findings : List Finding) :
    collect generation pick (arrange next findings) =
      gather generation pick (arrange next findings) :=
  sortBy_of_ascending ((gather_orders shapes next findings).imp Int.le_of_lt)

/-- What does not look at indices can be asked of the instructions themselves. -/
theorem filterMap_gather (f : Selector → Int → α → Option β) (instructions : List Instruction) :
    (gather generation pick instructions).filterMap (fun p => f p.selector p.order p.drawing) =
      instructions.filterMap fun i => (pick i.selector i.drawing).bind (f i.selector i.order) := by
  have picked : (fun entry : Instruction × Nat => ((pick entry.1.selector entry.1.drawing).map
      fun drawing => (⟨⟨entry.2, generation⟩, entry.1.selector, entry.1.order, drawing⟩ : Placed α)).bind
        fun p => f p.selector p.order p.drawing) =
      (fun i => (pick i.selector i.drawing).bind (f i.selector i.order)) ∘ Prod.fst := by
    funext entry
    rw [Function.comp_apply]
    cases pick entry.1.selector entry.1.drawing <;> rfl
  rw [gather, List.filterMap_filterMap]
  refine (congrArg (fun g => List.filterMap g _) picked).trans ?_
  rw [← List.filterMap_map, List.zipIdx_map_fst]

end Sheet

section Sorting

variable {α β : Type} {key : α → Int} {other : β → Int}

private theorem insertBy_eq_orderedInsert (a : α) (bs : List α) :
    insertBy key a bs = bs.orderedInsert (key · ≤ key ·) a := by
  induction bs with
  | nil => rfl
  | cons b bs ih => rw [insertBy, List.orderedInsert_cons, ih]

theorem sortBy_eq_insertionSort (as : List α) :
    sortBy key as = as.insertionSort (key · ≤ key ·) := by
  induction as with
  | nil => rfl
  | cons a as ih =>
    rw [List.insertionSort_cons, ← ih, ← insertBy_eq_orderedInsert]
    rfl

/-- Sorting looks at nothing but the keys. -/
theorem map_sortBy (f : α → β) (as : List α) (keys : ∀ a ∈ as, other (f a) = key a) :
    (sortBy key as).map f = sortBy other (as.map f) := by
  rw [sortBy_eq_insertionSort, sortBy_eq_insertionSort]
  refine List.map_insertionSort _ _ f as fun a first b second => ?_
  rw [keys a first, keys b second]

end Sorting

def Element.workshop (root : Element) (keys : Dictionary) (images : Images) (settings : Settings) :
    Workshop :=
  ⟨keys, images, settings, root.categories settings.selection⟩

namespace Style

variable {s : Style} {keys : Dictionary} {images : Images} {settings : Settings} {root : Element}
  {l : Loaded}

theorem load_tally (s : Style) (keys : Dictionary) (images : Images) (settings : Settings)
    (isTheme : root.name = "rendertheme") :
    ∃ l, s.load keys images settings root = .ok l ∧
      l.style = .ofFindings (s.generation + 1)
        ((root.workshop keys images settings).themeFindings root) ∧
      l.tally = l.style.sheet.tally ((root.workshop keys images settings).themeFindings root) := by
  rw [load, reload, if_pos isTheme]
  exact ⟨_, rfl, rfl, rfl⟩

theorem load_theme (s : Style) (keys : Dictionary) (images : Images) (settings : Settings)
    (isTheme : root.name = "rendertheme") :
    ∃ l, s.load keys images settings root = .ok l ∧
      l.style = .ofFindings (s.generation + 1)
        ((root.workshop keys images settings).themeFindings root) := by
  obtain ⟨l, loaded, style, _⟩ := s.load_tally keys images settings isTheme
  exact ⟨l, loaded, style⟩

theorem loaded_theme (loaded : s.load keys images settings root = .ok l) :
    root.name = "rendertheme" ∧
      l.style = .ofFindings (s.generation + 1)
        ((root.workshop keys images settings).themeFindings root) := by
  by_cases isTheme : root.name = "rendertheme"
  · obtain ⟨known, same, style⟩ := s.load_theme keys images settings isTheme
    obtain rfl : known = l := Except.ok.inj (same.symm.trans loaded)
    exact ⟨isTheme, style⟩
  · rw [load, reload, if_neg isTheme] at loaded
    contradiction

theorem loaded_text {text : String} (loaded : s.loadText keys images settings text = .ok l) :
    ∃ root, Markup.parse text = .ok root ∧ s.load keys images settings root = .ok l := by
  rw [loadText, reloadText] at loaded
  cases parsed : Markup.parse text with
  | error fault =>
    rw [parsed] at loaded
    contradiction
  | ok root =>
    rw [parsed] at loaded
    exact ⟨root, rfl, loaded⟩

end Style
end MapTheme
