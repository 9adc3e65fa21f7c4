import MapTheme.Proofs.Handles
import MapTheme.Report

/-! What a report tells of a feature. It tells each result of the queries, in their order and
with its sizes at the level. A label is among the results only where the feature has a tag with
its key, so each label has a text; and as nobody asks a node whether it is closed, the answer
is nowhere in its report. -/
namespace MapTheme

private theorem Selector.accepts_node (s : Selector) (zoom : Nat) (closed other : Bool)
    (tags : List Tag) :
    s.accepts zoom .node closed tags = s.accepts zoom .node other tags := rfl

namespace Style

variable (s : Style) (zoom : Nat) (closed other : Bool) (tags : List Tag)

private theorem labels_node : s.labels zoom .node closed tags = s.labels zoom .node other tags := by
  unfold labels
  refine List.filter_congr fun p _ => ?_
  rw [p.selector.accepts_node zoom closed other]

private theorem symbols_node :
    s.symbols zoom .node closed tags = s.symbols zoom .node other tags := by
  unfold symbols
  refine List.filter_congr fun p _ => ?_
  rw [p.selector.accepts_node zoom closed other]

end Style

namespace Report

def TellsPath (zoom : Nat) (p : Placed Path) (d : Drawn) : Prop :=
  d = .path p.order p.drawing.area p.drawing.curve (p.drawing.pen zoom) p.drawing.brush
    (p.drawing.offsetAt zoom)

def TellsCircle (zoom : Nat) (p : Placed Circle) (d : Drawn) : Prop :=
  d = .circle p.order (p.drawing.radiusAt zoom) p.drawing.pen p.drawing.brush

/-- A label is told with the value of the first tag that has its key. -/
def TellsLabel (tags : List Tag) (p : Placed Label) (d : Drawn) : Prop :=
  ∃ before tag after, tags = before ++ tag :: after ∧ tag.key = p.drawing.key ∧
    (∀ earlier ∈ before, earlier.key ≠ p.drawing.key) ∧
    d = .label p.drawing.priority tag.value p.drawing.font p.drawing.fill p.drawing.stroke
      p.drawing.strokeWidth p.drawing.offset

def TellsSymbol (p : Placed Symbol) (d : Drawn) : Prop := d = .symbol p.drawing

private theorem forall₂_map {α β : Type} {tells : α → β → Prop} {tell : α → β} {items : List α}
    (each : ∀ a ∈ items, tells a (tell a)) : List.Forall₂ tells items (items.map tell) := by
  rw [List.forall₂_map_right_iff, List.forall₂_same]
  exact each

private theorem ofLabel_tells {tags : List Tag} {p : Placed Label}
    (carried : tags.any (·.key = p.drawing.key) = true) : TellsLabel tags p (ofLabel tags p) := by
  have found : (tags.find? (·.key = p.drawing.key)).isSome = true := by
    rwa [List.find?_isSome, ← List.any_eq_true]
  obtain ⟨tag, first⟩ := Option.isSome_iff_exists.mp found
  obtain ⟨same, before, after, split, others⟩ := List.find?_eq_some_iff_append.mp first
  refine ⟨before, tag, after, split, of_decide_eq_true same, fun earlier member => ?_, ?_⟩
  · simpa using others earlier member
  · rw [ofLabel, labelText, first]
    rfl

theorem labels_told (s : Style) (zoom : Nat) (kind : Kind) (closed : Bool) (tags : List Tag) :
    List.Forall₂ (TellsLabel tags) (s.labels zoom kind closed tags)
      ((s.labels zoom kind closed tags).map (ofLabel tags)) := by
  refine forall₂_map fun p member => ofLabel_tells ?_
  exact (Bool.and_eq_true_iff.mp (List.mem_filter.mp member).2).2

private theorem ofFeature_node (s : Style) (zoom : Nat) {f : Feature} (node : f.kind = .node)
    (closed : Bool) : ofFeature s zoom { f with closed } = ofFeature s zoom f := by
  obtain ⟨id, kind, own, tags⟩ := f
  obtain rfl : kind = .node := node
  simp only [ofFeature, shapes]
  rw [s.labels_node zoom closed own, s.symbols_node zoom closed own]

/-- The report of a feature holds what the queries return for it, each result once and in the
order of the queries, and every label with the value of a tag. Whether a node is closed makes
no difference to it. -/
theorem feature_told (ops : List Operation) (zoom : Nat) (f : Feature) :
    let s := ({} : Style).run ops
    let report := ofFeature s zoom f
    report.id = f.id ∧
    (∃ shapes labels symbols, report.instructions = shapes ++ labels ++ symbols ∧
      (f.kind = .way → List.Forall₂ (TellsPath zoom) (s.paths zoom f.closed f.tags) shapes) ∧
      (f.kind = .node → List.Forall₂ (TellsCircle zoom) (s.circles zoom f.tags) shapes) ∧
      List.Forall₂ (TellsLabel f.tags) (s.labels zoom f.kind f.closed f.tags) labels ∧
      List.Forall₂ TellsSymbol (s.symbols zoom f.kind f.closed f.tags) symbols) ∧
    (f.kind = .node → ∀ closed, ofFeature s zoom { f with closed } = report) := by
  intro s report
  refine ⟨rfl, ⟨shapes s zoom f, _, _, rfl, fun way => ?_, fun node => ?_,
    labels_told s zoom f.kind f.closed f.tags, forall₂_map fun p _ => rfl⟩, ofFeature_node s zoom⟩
  · rw [shapes, way]
    exact forall₂_map fun p _ => rfl
  · rw [shapes, node]
    exact forall₂_map fun p _ => rfl

/-- A rule that asks of ways, and of no node, that they are not closed. -/
def chapels : Element :=
  ⟨"rendertheme", [], [⟨"rule", [("closed", "no")],
    [⟨"line", [("stroke", "#202020")], []⟩, ⟨"circle", [("r", "2")], []⟩,
     ⟨"caption", [("k", "name")], []⟩, ⟨"symbol", [("src", "bell")], []⟩]⟩]⟩

def chapel : Feature := { kind := .node, tags := [⟨1, "Chapel"⟩, ⟨1, "Kapelle"⟩] }

theorem chapel_told :
    let s := ({} : Style).run [.load (KeyTable.intern {} "name").1 (.ofNames ["bell"]) {} chapels]
    let path : Feature := { chapel with kind := .way }
    (∃ shapes labels symbols,
      (ofFeature s 14 chapel).instructions = shapes ++ labels ++ symbols ∧
        List.Forall₂ (TellsCircle 14) (s.circles 14 chapel.tags) shapes ∧
        List.Forall₂ (TellsLabel chapel.tags) (s.labels 14 .node false chapel.tags) labels ∧
        List.Forall₂ TellsSymbol (s.symbols 14 .node false chapel.tags) symbols ∧
        shapes.length = 1 ∧ labels.length = 1 ∧ symbols.length = 1) ∧
      ofFeature s 14 { chapel with closed := true } = ofFeature s 14 chapel ∧
      ∃ shapes rest, (ofFeature s 14 path).instructions = shapes ++ rest ∧
        List.Forall₂ (TellsPath 14) (s.paths 14 false path.tags) shapes ∧ shapes.length = 1 := by
  intro s path
  obtain ⟨_, ⟨shapes, labels, symbols, all, _, circles, texts, signs⟩, unasked⟩ :=
    feature_told [.load (KeyTable.intern {} "name").1 (.ofNames ["bell"]) {} chapels] 14 chapel
  obtain ⟨_, ⟨lines, others, icons, whole, paths, _⟩, _⟩ :=
    feature_told [.load (KeyTable.intern {} "name").1 (.ofNames ["bell"]) {} chapels] 14 path
  refine ⟨⟨shapes, labels, symbols, all, circles rfl, texts, signs, ?_, ?_, ?_⟩, unasked rfl true,
    lines, others ++ icons, by rw [whole, List.append_assoc], paths rfl, ?_⟩
  · rw [← (circles rfl).length_eq]
    decide +kernel
  · rw [← texts.length_eq]
    decide +kernel
  · rw [← signs.length_eq]
    decide +kernel
  · rw [← (paths rfl).length_eq]
    decide +kernel

end Report
end MapTheme
