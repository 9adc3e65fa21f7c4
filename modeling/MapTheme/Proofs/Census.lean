import MapTheme.Proofs.Counting
import MapTheme.Proofs.Listing

/-! The tally of a load as a count of the document. Every element in enabled rules is counted
once for what it draws or for what keeps it from being drawn, a caption once for each kind of
feature that its rules leave it, and of the rules that are not enabled the outermost ones. -/
namespace MapTheme

/-- Whether no rule around a place is for the other kind of feature. -/
def Place.suits (p : Place) (kind : Kind) : Bool := p.trail.all (·.wantsKind kind)

namespace Element

def isText (e : Element) : Bool := e.name = "pathText" || e.name = "caption"

/-- Whether the key of a label is one that there are numbers for. -/
def keyed (keys : Dictionary) (e : Element) : Bool :=
  (e.get? "k").any fun key => (keys.id? key).isSome

/-- Whether the image that an element names is found. -/
def pictured (images : Images) (e : Element) : Bool :=
  (e.get? "src").any fun source => (images.locate source).isSome

def isKeyedCaption (keys : Dictionary) (e : Element) : Bool := e.name = "caption" && e.keyed keys

/-- A theme counted element by element. -/
def census (root : Element) (keys : Dictionary) (images : Images) (categories : List String) :
    Tally :=
  let reached := root.descendants.filter (·.reached categories)
  { paths := reached.countP (·.element.name ∈ ["area", "line"])
    circles := reached.countP (·.element.name = "circle")
    pathLabels := reached.countP fun p => p.element.name = "pathText" && p.element.keyed keys
    pointLabels := reached.countP fun p => p.element.isKeyedCaption keys && p.suits .node
    areaLabels := reached.countP fun p => p.element.isKeyedCaption keys && p.suits .way
    symbols := reached.countP fun p => p.element.name = "symbol" && p.element.pictured images
    prunedRules := root.descendants.countP fun p =>
      p.ruled categories && (p.element.name = "rule" && !p.element.opens categories)
    missingImages :=
      (reached.countP fun p => p.element.name = "symbol" && !p.element.pictured images) +
        reached.countP fun p =>
          p.element.name = "area" && p.element.has "src" && !p.element.pictured images
    skipped :=
      (reached.countP fun p => p.element.isText && !p.element.keyed keys) +
        reached.countP fun p =>
          p.element.isKeyedCaption keys && (!p.suits .node && !p.suits .way) }

end Element

private theorem countP_or {α : Type} {p q : α → Bool} (apart : ∀ a, p a = true → q a = false)
    (items : List α) : items.countP (fun a => p a || q a) = items.countP p + items.countP q := by
  induction items with
  | nil => rfl
  | cons a items ih =>
    rw [List.countP_cons, List.countP_cons, List.countP_cons, ih]
    cases first : p a with
    | false => simp [Nat.add_assoc]
    | true => simp [apart a first, Nat.add_right_comm]

namespace Workshop
open Sheet

variable {α : Type} (w : Workshop) (root : Element) {generation : Nat}

private theorem keyed_eq (e : Element) : e.keyed w.keys = (w.labelKey? e).isSome := by
  rw [Element.keyed, labelKey?]
  cases e.get? "k" <;> rfl

theorem pictured_eq (e : Element) : e.pictured w.images = w.finds e := by
  rw [Element.pictured, finds]
  cases e.get? "src" <;> rfl

private theorem suits_eq (p : Place) (kind : Kind) :
    (w.selector p.trail).geometry.accepts kind = p.suits kind := by
  have each (s : Selector) (e : Element) : (s.refine (w.declared e)).geometry.accepts kind =
      (s.geometry.accepts kind && e.wantsKind kind) := by
    rw [Selector.acceptsKind_refine, ← all_geometry]
    rfl
  exact foldl_asks (fun s : Selector => s.geometry.accepts kind) each {} p.trail

private theorem never_eq (p : Place) :
    decide ((w.selector p.trail).geometry = .never) = (!p.suits .node && !p.suits .way) := by
  rw [← suits_eq, ← suits_eq]
  cases (w.selector p.trail).geometry <;> rfl

/-- What is counted and not drawn is counted once for each place that it is found at. -/
theorem countP_loss {counts : Finding → Bool} (kept : ∀ f, counts f = true → f.counted = true)
    (undrawn : ∀ s d, counts (.drawn s d) = false) :
    (w.themeFindings root).countP counts =
      root.descendants.countP fun p => (w.loss? p).any counts := by
  have here (p : Place) : (w.ownFindings p).countP counts =
      if (w.loss? p).any counts then 1 else 0 := by
    rw [← countP_kept kept, counted_own, List.countP_append]
    have silent : ((w.drawnAt? p).map fun drawn => Finding.drawn drawn.1 drawn.2).toList.countP
        counts = 0 := by
      cases w.drawnAt? p <;> simp [undrawn]
    rw [silent]
    cases w.loss? p <;> simp
  rw [themeFindings_places]
  induction root.descendants with
  | nil => rfl
  | cons p ps ih => rw [List.flatMap_cons, List.countP_append, here, ih, List.countP_cons, Nat.add_comm]

private theorem any_lack_pruned (s : Selector) (e : Element) :
    (w.lack? s e).any Finding.isPruned = false := by
  fun_cases lack? <;> rfl

private theorem any_lack_missing (s : Selector) (e : Element) :
    (w.lack? s e).any Finding.isMissingImage =
      (e.name = "symbol" && !w.finds e || e.name = "area" && e.has "src" && !w.finds e) := by
  fun_cases lack? <;> simp_all [Finding.isMissingImage]

private theorem any_lack_skipped (s : Selector) (e : Element) :
    (w.lack? s e).any Finding.isSkipped =
      (e.isText && !e.keyed w.keys ||
        e.isKeyedCaption w.keys && s.geometry = .never) := by
  rw [Element.isKeyedCaption, keyed_eq, Element.isText]
  fun_cases lack? <;> simp_all [Finding.isSkipped, Option.isSome_iff_ne_none]

private theorem any_loss {counts : Finding → Bool}
    (others : ∀ category, counts (.notice (.disabledCategory category)) = false) (p : Place) :
    (w.loss? p).any counts =
      (p.reached w.categories && (w.lack? (w.selector p.trail) p.element).any counts) := by
  rw [loss?, Place.reached]
  cases p.ruled w.categories with
  | false => simp
  | true =>
    by_cases isRule : p.element.name = "rule"
    · have whole (s : Selector) : w.lack? s p.element = none := by simp [lack?, isRule]
      by_cases enabled : w.enables p.element <;> simp [isRule, whole, enabled, others]
    · cases p.trail <;> simp [isRule]

private theorem any_loss_pruned (p : Place) :
    (w.loss? p).any Finding.isPruned =
      (p.ruled w.categories && (p.element.name = "rule" && !p.element.opens w.categories)) := by
  rw [loss?]
  cases p.ruled w.categories with
  | false => rfl
  | true =>
    by_cases isRule : p.element.name = "rule"
    · by_cases enabled : w.enables p.element <;>
        simp [isRule, enabled, w.opens_rule isRule, Finding.isPruned]
    · cases p.trail <;> simp [isRule, any_lack_pruned]

/-- What keeps instructions from being drawn is counted in the rules that are enabled. -/
theorem countP_lack {counts : Finding → Bool} (kept : ∀ f, counts f = true → f.counted = true)
    (undrawn : ∀ s d, counts (.drawn s d) = false)
    (others : ∀ category, counts (.notice (.disabledCategory category)) = false) :
    (w.themeFindings root).countP counts =
      (root.descendants.filter (·.reached w.categories)).countP fun p =>
        (w.lack? (w.selector p.trail) p.element).any counts := by
  rw [w.countP_loss root kept undrawn, List.countP_filter]
  refine List.countP_congr fun p _ => ?_
  rw [w.any_loss others, Bool.and_comm]

private theorem length_listed {pick : Selector → Drawing → Option α} (o : Output)
    (picks : ∀ s d, (pick s d).isSome = o.picks s d) {asked : Selector → Element → Bool}
    (picked : ∀ s e, ((w.drawing? s e).bind (pick s)).isSome = asked s e) :
    ((Sheet.ofFindings generation (w.themeFindings root)).listed o).length =
      (root.descendants.filter (·.reached w.categories)).countP fun p =>
        asked (w.selector p.trail) p.element := by
  have gathered := w.gather_places root generation pick fun _ x => some x
  have every : (gather generation pick (arrange 0 (w.themeFindings root))).filterMap
      (fun p => some p.drawing) =
        (gather generation pick (arrange 0 (w.themeFindings root))).map (·.drawing) :=
    congrFun List.filterMap_eq_map' _
  rw [every] at gathered
  rw [Sheet.ofFindings, listed_ofInstructions pick o picks, List.length_map, collect,
    length_sortBy, ← List.length_map (·.drawing), gathered, List.length_filterMap_eq_countP,
    List.countP_filter]
  refine List.countP_congr fun p _ => ?_
  rw [drawnAt?, ← picked]
  cases p.reached w.categories with
  | false => simp
  | true => simp [Option.bind_map]

theorem paths_census :
    (Sheet.ofFindings generation (w.themeFindings root)).paths.length =
      (root.census w.keys w.images w.categories).paths := by
  have picked (s : Selector) (e : Element) : ((w.drawing? s e).bind Drawing.path?).isSome =
      decide (e.name ∈ ["area", "line"]) := by
    rw [drawing_path]
    split <;> simp [*]
  exact w.length_listed root .paths (fun _ _ => rfl) picked

theorem circles_census :
    (Sheet.ofFindings generation (w.themeFindings root)).circles.length =
      (root.census w.keys w.images w.categories).circles := by
  have picked (s : Selector) (e : Element) : ((w.drawing? s e).bind Drawing.circle?).isSome =
      decide (e.name = "circle") := by
    rw [drawing_circle]
    split <;> simp [*]
  exact w.length_listed root .circles (fun _ _ => rfl) picked

theorem pathLabels_census :
    (Sheet.ofFindings generation (w.themeFindings root)).pathLabels.length =
      (root.census w.keys w.images w.categories).pathLabels := by
  have picked (s : Selector) (e : Element) : ((w.drawing? s e).bind (pathLabel? s)).isSome =
      (e.name = "pathText" && e.keyed w.keys) := by
    rw [drawing_pathLabel, keyed_eq]
    split <;> simp [*]
  exact w.length_listed root .pathLabels (fun _ _ => rfl) picked

private theorem captions_listed (kind : Kind) (o : Output)
    (picks : ∀ s d, (caption? kind s d).isSome = o.picks s d) :
    ((Sheet.ofFindings generation (w.themeFindings root)).listed o).length =
      (root.descendants.filter (·.reached w.categories)).countP fun p =>
        p.element.isKeyedCaption w.keys && p.suits kind := by
  have picked (s : Selector) (e : Element) : ((w.drawing? s e).bind (caption? kind s)).isSome =
      (e.isKeyedCaption w.keys && s.geometry.accepts kind) := by
    rw [drawing_caption, Element.isKeyedCaption, keyed_eq]
    by_cases named : e.name = "caption" <;> cases s.geometry.accepts kind <;> simp [named]
  rw [w.length_listed root o picks picked]
  simp only [suits_eq]

theorem pointLabels_census :
    (Sheet.ofFindings generation (w.themeFindings root)).pointLabels.length =
      (root.census w.keys w.images w.categories).pointLabels :=
  w.captions_listed root .node .pointLabels fun _ _ => rfl

theorem areaLabels_census :
    (Sheet.ofFindings generation (w.themeFindings root)).areaLabels.length =
      (root.census w.keys w.images w.categories).areaLabels :=
  w.captions_listed root .way .areaLabels fun _ _ => rfl

theorem symbols_census :
    (Sheet.ofFindings generation (w.themeFindings root)).symbols.length =
      (root.census w.keys w.images w.categories).symbols := by
  have picked (s : Selector) (e : Element) : ((w.drawing? s e).bind Drawing.symbol?).isSome =
      (e.name = "symbol" && e.pictured w.images) := by
    rw [drawing_symbol, pictured_eq, ← icon_isSome]
    split <;> simp [*]
  exact w.length_listed root .symbols (fun _ _ => rfl) picked

theorem pruned_census :
    (w.themeFindings root).countP Finding.isPruned =
      (root.census w.keys w.images w.categories).prunedRules := by
  rw [w.countP_loss root counted_of_isPruned fun _ _ => rfl]
  simp only [any_loss_pruned, Element.census]

theorem missing_census :
    (w.themeFindings root).countP Finding.isMissingImage =
      (root.census w.keys w.images w.categories).missingImages := by
  have apart (p : Place) (symbol : (p.element.name = "symbol" && !p.element.pictured w.images) = true) :
      (p.element.name = "area" && p.element.has "src" && !p.element.pictured w.images) = false := by
    simp_all
  rw [w.countP_lack root counted_of_isMissingImage (fun _ _ => rfl) fun _ => rfl, Element.census,
    ← countP_or apart]
  simp only [any_lack_missing, pictured_eq]

theorem skipped_census :
    (w.themeFindings root).countP Finding.isSkipped =
      (root.census w.keys w.images w.categories).skipped := by
  have apart (p : Place) (unkeyed : (p.element.isText && !p.element.keyed w.keys) = true) :
      (p.element.isKeyedCaption w.keys && (!p.suits .node && !p.suits .way)) = false := by
    simp_all [Element.isKeyedCaption]
  rw [w.countP_lack root counted_of_isSkipped (fun _ _ => rfl) fun _ => rfl, Element.census,
    ← countP_or apart]
  simp only [any_lack_skipped, never_eq]

theorem tally_census :
    (Sheet.ofFindings generation (w.themeFindings root)).tally (w.themeFindings root) =
      root.census w.keys w.images w.categories := by
  simp only [Sheet.tally, paths_census, circles_census, pathLabels_census, pointLabels_census,
    areaLabels_census, symbols_census, pruned_census, missing_census, skipped_census]

end Workshop

namespace Style

variable {root : Element}

/-- A load tells how the theme is counted, and of every symbol whether its image is found. -/
theorem load_counted (s : Style) (keys : Dictionary) (images : Images) (settings : Settings)
    (isTheme : root.name = "rendertheme") :
    let w := root.workshop keys images settings
    let reached := root.descendants.filter (·.reached w.categories)
    ∃ l, s.load keys images settings root = .ok l ∧
      l.tally = root.census keys images w.categories ∧
      l.tally.symbols + l.tally.missingImages =
        (reached.countP (·.element.name = "symbol") +
          reached.countP fun p =>
            p.element.name = "area" && p.element.has "src" && !p.element.pictured images) ∧
      ∀ p ∈ reached,
        p.suits .node = decide ((w.selector p.trail).geometry ∈ [.any, .node]) ∧
          p.suits .way = decide ((w.selector p.trail).geometry ∈ [.any, .way]) := by
  intro w reached
  obtain ⟨l, loaded, style, tally⟩ := s.load_tally keys images settings isTheme
  have counted : l.tally = root.census keys images w.categories := by
    rw [tally, style]
    exact w.tally_census root
  have symbols : (reached.countP fun p => p.element.name = "symbol" && p.element.pictured images) +
      (reached.countP fun p => p.element.name = "symbol" && !p.element.pictured images) =
        reached.countP (·.element.name = "symbol") := by
    rw [← countP_or (by simp_all)]
    refine List.countP_congr fun p _ => ?_
    cases p.element.pictured images <;> simp
  refine ⟨l, loaded, counted, ?_, fun p _ => ?_⟩
  · rw [counted, ← symbols, Nat.add_assoc]
    rfl
  · rw [← w.suits_eq, ← w.suits_eq]
    cases (w.selector p.trail).geometry <;> exact ⟨rfl, rfl⟩

/-- A market with all that there is to count, some of it more than once. -/
def market : Element :=
  ⟨"rendertheme", [], [⟨"circle", [], []⟩,
    ⟨"rule", [("cat", "stalls")], [⟨"rule", [("cat", "fish")], []⟩, ⟨"area", [], []⟩]⟩,
    ⟨"rule", [], [⟨"area", [("src", "paving")], []⟩, ⟨"area", [("src", "grass")], []⟩,
      ⟨"line", [], [⟨"line", [], []⟩]⟩, ⟨"circle", [], []⟩, ⟨"caption", [("k", "name")], []⟩,
      ⟨"pathText", [("k", "name")], []⟩, ⟨"pathText", [], []⟩,
      ⟨"rule", [("e", "node")], [⟨"caption", [("k", "name")], []⟩, ⟨"caption", [("k", "ref")], []⟩,
        ⟨"symbol", [("src", "pump")], []⟩, ⟨"symbol", [("src", "paving")], []⟩,
        ⟨"symbol", [], []⟩,
        ⟨"rule", [("e", "way")], [⟨"caption", [("k", "name")], []⟩,
          ⟨"rule", [("cat", "fish")], [⟨"line", [], []⟩]⟩]⟩]⟩]⟩]⟩

def marketKeys : KeyTable := (KeyTable.tags {} [("name", "Corn Hill")]).1

theorem market_counted :
    let images := Images.ofNames ["paving"]
    market.name = "rendertheme" ∧
      ∃ l, ({} : Style).load marketKeys images {} market = .ok l ∧
        l.tally = market.census marketKeys images [] ∧
        l.tally =
          { paths := 3, circles := 1, pathLabels := 1, pointLabels := 2, areaLabels := 1,
            symbols := 1, prunedRules := 2, missingImages := 3, skipped := 3 } := by
  intro images
  have isTheme : market.name = "rendertheme" := rfl
  obtain ⟨l, loaded, counted, _⟩ := load_counted {} marketKeys images {} isTheme
  exact ⟨isTheme, l, loaded, counted, counted.trans (by decide +kernel)⟩

/-- A circle right below the root, which nothing stands around, is not counted. -/
def bareCircle : Element := ⟨"rendertheme", [], [⟨"circle", [], []⟩]⟩

theorem bare_circle_uncounted :
    ∃ l, ({} : Style).load {} .none {} bareCircle = .ok l ∧
      l.tally.circles ≠ (bareCircle.descendants.filter
        (·.ruled (bareCircle.categories {}))).countP (·.element.name = "circle") := by
  refine ⟨_, rfl, ?_⟩
  decide +kernel

end Style
end MapTheme
