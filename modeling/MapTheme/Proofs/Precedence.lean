import MapTheme.Proofs.Ordering

/-! Which of two labels of a feature comes first. Labels come by priority, and those of
nodes and of open ways that are equal in it in document order. A closed way has its
captions before the texts along it, so its labels are in document order just where no
such text stands before a caption of equal priority in the document. -/
namespace MapTheme
namespace Style
open Sheet

def placement? (s : Style) (p : Placed Label) : Option Placement :=
  (s.get? (s.handle p)).bind (·.drawing.placement?)

/-- How two labels stand that are equal in priority: in document order where they go to
the same place, and else the caption first. -/
def CaptionsFirst (s : Style) (p q : Placed Label) : Prop :=
  s.placement? p = s.placement? q ∧ p.index < q.index ∨
    s.placement? p = some .caption ∧ s.placement? q = some .along

variable {s : Style} {findings : List Finding} {zoom : Nat} {kind : Kind} {closed : Bool}
  {tags : List Tag} {fits : Placement → Bool} {p : Placed Label}

private theorem textScan_stored (sheet : s.sheet = .ofFindings s.generation findings)
    (member : p ∈ textScan s.generation (arrange 0 findings) zoom kind closed tags fits) :
    ∃ i placement, s.get? (s.handle p) = some i ∧ i.selector = p.selector ∧
      i.order = p.order ∧ i.drawing = .label placement p.drawing ∧ fits placement = true := by
  obtain ⟨i, stored, selector, order, picked⟩ := get?_gather _ (List.mem_filter.mp member).1
  rw [← Sheet.ofFindings, ← sheet] at stored
  cases drawing : i.drawing with
  | label placement own =>
    rw [drawing, Drawing.labelFor?] at picked
    split at picked
    · next suited =>
      obtain rfl := Option.some.inj picked
      exact ⟨i, placement, stored, selector, order, drawing, suited⟩
    · contradiction
  | _ =>
    rw [drawing] at picked
    contradiction

private theorem textScan_placement (sheet : s.sheet = .ofFindings s.generation findings)
    (member : p ∈ textScan s.generation (arrange 0 findings) zoom kind closed tags fits) :
    ∃ placement, s.placement? p = some placement ∧ fits placement = true := by
  obtain ⟨i, placement, stored, _, _, drawing, suited⟩ := textScan_stored sheet member
  refine ⟨placement, ?_, suited⟩
  rw [placement?, stored, Option.bind_some, drawing, Drawing.placement?]

/-- The texts for a feature that go to one place. -/
def textsAt (s : Style) (zoom : Nat) (kind : Kind) (closed : Bool) (tags : List Tag)
    (here : Placement) : List (Placed Label) :=
  textScan s.generation s.sheet.instructions.toList zoom kind closed tags
    fun p => p = here && p.suits kind closed

private theorem textsAt_placement (sheet : s.sheet = .ofFindings s.generation findings)
    {here : Placement}
    (member : p ∈ s.textsAt zoom kind closed tags here) : s.placement? p = some here := by
  rw [textsAt, instructions_arranged sheet] at member
  obtain ⟨placement, placed, suited⟩ := textScan_placement sheet member
  obtain rfl : placement = here := of_decide_eq_true (Bool.and_eq_true_iff.mp suited).1
  exact placed

/-- Texts that go to one place stand in document order, also when they are sorted. -/
theorem textsAt_tied (sheet : s.sheet = .ofFindings s.generation findings) (here : Placement) :
    (sortBy (·.order) (s.textsAt zoom kind closed tags here)).Pairwise
      (Tied (·.order) s.CaptionsFirst) := by
  have document : (s.textsAt zoom kind closed tags here).Pairwise (·.index < ·.index) :=
    (gather_indices _).filter _
  refine sortBy_tied (document.imp_of_mem fun first second less _ => .inl ⟨?_, less⟩)
  rw [textsAt_placement sheet first, textsAt_placement sheet second]

private theorem labels_merged (sheet : s.sheet = .ofFindings s.generation findings) :
    s.labels zoom kind closed tags =
      sortBy (·.order) (sortBy (·.order) (s.textsAt zoom kind closed tags .caption) ++
        sortBy (·.order) (s.textsAt zoom kind closed tags .along)) := by
  rw [labels_eq sheet, textsAt, textsAt, instructions_arranged sheet]

theorem mem_labels (sheet : s.sheet = .ofFindings s.generation findings)
    (member : p ∈ s.labels zoom kind closed tags) :
    p ∈ textScan s.generation (arrange 0 findings) zoom kind closed tags (·.suits kind closed) := by
  exact (labels_perm sheet).mem_iff.mp member

theorem labels_tied (sheet : s.sheet = .ofFindings s.generation findings) :
    (s.labels zoom kind closed tags).Pairwise (Tied (·.order) s.CaptionsFirst) := by
  rw [labels_merged sheet]
  refine sortBy_tied (List.pairwise_append.mpr
    ⟨textsAt_tied sheet .caption, textsAt_tied sheet .along, ?_⟩)
  -- Of the two lists, that of the captions was put first.
  intro p first q second _
  exact .inr ⟨textsAt_placement sheet (mem_sortBy.mp first),
    textsAt_placement sheet (mem_sortBy.mp second)⟩

/-- The labels of a feature are instructions of the style, by priority, and those of equal
priority have captions before texts along a way. -/
structure Lettered (s : Style) (ps : List (Placed Label)) : Prop where
  stored : ∀ p ∈ ps, s.Stored Drawing.label? p
  ascending : ps.Pairwise (·.drawing.priority ≤ ·.drawing.priority)
  tied : ps.Pairwise fun p q => p.drawing.priority = q.drawing.priority → s.CaptionsFirst p q

theorem labels_lettered (sheet : s.sheet = .ofFindings s.generation findings) :
    s.Lettered (s.labels zoom kind closed tags) where
  stored p member := by
    obtain ⟨i, placement, stored, selector, order, drawing, _⟩ :=
      textScan_stored sheet (mem_labels sheet member)
    refine ⟨i, stored, selector, order, ?_⟩
    rw [drawing, Drawing.label?]
  ascending := List.pairwise_map.mp (labels_ascending sheet)
  tied := by
    refine (labels_tied sheet).imp_of_mem fun {p q} first second tied equal => tied ?_
    show p.order = q.order
    rwa [textScan_priority (mem_labels sheet first), textScan_priority (mem_labels sheet second)]

/-- Texts that are not both captions and texts along a way stand in document order. -/
theorem byPriority_of_lettered {ps : List (Placed Label)} (lettered : s.Lettered ps)
    (apart : ∀ p ∈ ps, ∀ q ∈ ps, s.placement? p = some .caption → s.placement? q = some .along →
      p.drawing.priority = q.drawing.priority → p.index < q.index) :
    s.ByPriority Drawing.label? Label.priority ps where
  stored := lettered.stored
  ascending := by
    refine (lettered.ascending.and lettered.tied).imp_of_mem fun {p q} first second both => ?_
    obtain ⟨less, tied⟩ := both
    rcases Int.lt_or_eq_of_le less with below | equal
    · exact .inl below
    · rcases tied equal with ⟨_, before⟩ | ⟨caption, along⟩
      · exact .inr ⟨equal, before⟩
      · exact .inr ⟨equal, apart p first q second caption along equal⟩

private theorem apart_of_byPriority {ps : List (Placed Label)} (lettered : s.Lettered ps)
    (ordered : s.ByPriority Drawing.label? Label.priority ps) {p q : Placed Label} (first : p ∈ ps)
    (second : q ∈ ps) (caption : s.placement? p = some .caption)
    (along : s.placement? q = some .along) (equal : p.drawing.priority = q.drawing.priority) :
    p.index < q.index := by
  obtain ⟨i, insideLeft, rfl⟩ := List.mem_iff_getElem.mp first
  obtain ⟨j, insideRight, rfl⟩ := List.mem_iff_getElem.mp second
  rcases Nat.lt_trichotomy i j with before | rfl | after
  · rcases List.pairwise_iff_getElem.mp ordered.ascending i j insideLeft insideRight before with
      below | ⟨_, less⟩
    · omega
    · exact less
  · rw [caption] at along
    contradiction
  · -- The text along the way cannot stand left of the caption.
    rcases List.pairwise_iff_getElem.mp lettered.tied j i insideRight insideLeft after equal.symm
      with ⟨same, _⟩ | ⟨other, _⟩
    · rw [caption, along] at same
      contradiction
    · rw [along] at other
      contradiction

/-- The labels of a feature come by priority, captions before texts along a way, and each
of the two in document order. So they are in document order where the feature shows but
one of the two, and for a closed way exactly where every caption stands before the texts
along it that are equal to it in priority. -/
theorem labels_ordered (ops : List Operation) (zoom : Nat) (kind : Kind) (closed : Bool)
    (tags : List Tag) :
    let s := ({} : Style).run ops
    let labels := s.labels zoom kind closed tags
    s.sheet.instructions.toList.map (fun i => (i.selector, i.drawing)) =
        (({} : Style).edition none ops).elim [] Edition.drawn ∧
      s.Lettered labels ∧
      (kind = .node ∨ closed = false → s.ByPriority Drawing.label? Label.priority labels) ∧
      (s.ByPriority Drawing.label? Label.priority labels ↔
        ∀ p ∈ labels, ∀ q ∈ labels, s.placement? p = some .caption → s.placement? q = some .along →
          p.drawing.priority = q.drawing.priority → p.index < q.index) := by
  intro s labels
  have holds : s.Holds (({} : Style).edition none ops) := run_holds new_holds ops
  have sheet : s.sheet = .ofFindings s.generation
      ((({} : Style).edition none ops).elim [] Edition.findings) := holds
  have lettered : s.Lettered labels := labels_lettered sheet
  refine ⟨instructions_drawn holds, lettered, fun single => ?_, fun ordered => ?_,
    byPriority_of_lettered lettered⟩
  · refine byPriority_of_lettered lettered fun p first q second caption along _ => ?_
    obtain ⟨left, leftPlaced, leftFits⟩ := textScan_placement sheet (mem_labels sheet first)
    obtain ⟨right, rightPlaced, rightFits⟩ := textScan_placement sheet (mem_labels sheet second)
    obtain rfl := Option.some.inj (leftPlaced.symm.trans caption)
    obtain rfl := Option.some.inj (rightPlaced.symm.trans along)
    rcases single with rfl | rfl
    · contradiction
    · cases kind <;> contradiction
  · intro p first q second
    exact apart_of_byPriority lettered ordered first second

def lakeTags : List (String × String) := [("name", "Mirror Lake"), ("ref", "L 7")]

/-- Two texts of the same priority along a shore, and one after them that comes first. -/
def shores : Element :=
  ⟨"rendertheme", [], [⟨"rule", [("e", "way")],
    [⟨"pathText", [("k", "name")], []⟩, ⟨"pathText", [("k", "ref")], []⟩,
      ⟨"pathText", [("k", "name"), ("priority", "-1")], []⟩]⟩]⟩

theorem open_lake_ordered :
    let keyed := KeyTable.tags {} lakeTags
    let s := ({} : Style).run [.load keyed.1 .none {} shores]
    s.ByPriority Drawing.label? Label.priority (s.labels 10 .way false keyed.2) ∧
      (s.labels 10 .way false keyed.2).map (fun p => (p.drawing.priority, p.index)) =
        [(-1, 2), (0, 0), (0, 1)] :=
  ⟨(labels_ordered _ 10 .way false _).2.2.1 (.inr rfl), by decide +kernel⟩

/-- A text along a way that stands before a caption of the same priority. -/
def lakes : Element :=
  ⟨"rendertheme", [], [⟨"rule", [("e", "way")],
    [⟨"pathText", [("k", "ref")], []⟩, ⟨"caption", [("k", "name")], []⟩]⟩]⟩

/-- A closed way shows them the other way round. -/
theorem caption_before_earlier_text :
    let keyed := KeyTable.tags {} lakeTags
    let s := ({} : Style).run [.load keyed.1 .none {} lakes]
    ¬ s.ByPriority Drawing.label? Label.priority (s.labels 10 .way true keyed.2) := by
  intro keyed s ordered
  have shown : (s.labels 10 .way true keyed.2).map (fun p => (p.drawing.priority, p.index)) =
      [(0, 1), (0, 0)] := by decide +kernel
  have pairs : ((s.labels 10 .way true keyed.2).map fun p => (p.drawing.priority, p.index)).Pairwise
      fun a b => a.1 < b.1 ∨ a.1 = b.1 ∧ a.2 < b.2 := List.pairwise_map.mpr ordered.ascending
  rw [shown] at pairs
  revert pairs
  decide

end Style
end MapTheme
