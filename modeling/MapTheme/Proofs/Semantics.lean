import MapTheme.Proofs.Census
import MapTheme.Proofs.Ordering

/-! What a theme means. A query of a loaded theme lists the elements of the document
that stand in rules, all enabled and all of them for the feature, whatever the theme
was compiled into. -/
namespace MapTheme

namespace Element

def priority (e : Element) : Int := (e.read? "priority" Value.whole?).getD 0

def isPicturedSymbol (images : Images) (e : Element) : Bool :=
  e.name = "symbol" && e.pictured images

end Element

namespace Workshop
open Sheet

variable {w : Workshop} {tags : List Tag} {pairs : List (String × String)}

/-- The symbol of an element, if its image is found. -/
def sign? (w : Workshop) (e : Element) : Option Symbol := (w.icon? e).map (symbol e)

private theorem priority_sign {e : Element} (pictured : e.isPicturedSymbol w.images = true) :
    ((w.sign? e).map (·.priority)).getD 0 = e.priority := by
  rw [Element.isPicturedSymbol, pictured_eq, ← icon_isSome, Bool.and_eq_true] at pictured
  obtain ⟨icon, found⟩ := Option.isSome_iff_exists.mp pictured.2
  rw [sign?, found]
  rfl

theorem symbols_pictured (spelled : w.keys.Spells tags pairs) (root : Element)
    (generation zoom : Nat) (kind : Kind) (closed : Bool) :
    ((gather generation (fun _ => Drawing.symbol?) (arrange 0 (w.themeFindings root))).filter
        (·.selector.accepts zoom kind closed tags)).map (fun p => some p.drawing) =
      ((root.openTo w.categories ⟨zoom, kind, closed, pairs⟩).filter
        (·.element.isPicturedSymbol w.images)).map fun p => w.sign? p.element := by
  have listed := congrArg (List.map some) (symbols_places spelled root generation zoom kind closed id)
  rw [List.map_map, List.map_filterMap_some_eq_filter_map_isSome, List.filter_map,
    List.filter_filter] at listed
  refine listed.trans (congrArg (List.map _) (List.filter_congr fun p _ => ?_))
  rw [Function.comp_apply, Option.isSome_map, icon_isSome, ← pictured_eq, Bool.and_comm]
  rfl

/-- Symbols come by priority, those of equal priority as they stand in the document. -/
theorem symbols_sorted (spelled : w.keys.Spells tags pairs) (root : Element)
    (generation zoom : Nat) (kind : Kind) (closed : Bool) :
    (sortBy (·.order)
        ((gather generation (fun _ => Drawing.symbol?) (arrange 0 (w.themeFindings root))).filter
          (·.selector.accepts zoom kind closed tags))).map (fun p => some p.drawing) =
      (((root.openTo w.categories ⟨zoom, kind, closed, pairs⟩).filter
        (·.element.isPicturedSymbol w.images)).insertionSort
          (·.element.priority ≤ ·.element.priority)).map fun p => w.sign? p.element := by
  let entries :=
    (gather generation (fun _ => Drawing.symbol?) (arrange 0 (w.themeFindings root))).filter
      (·.selector.accepts zoom kind closed tags)
  let shown := (root.openTo w.categories ⟨zoom, kind, closed, pairs⟩).filter
    (·.element.isPicturedSymbol w.images)
  let rank (sign : Option Symbol) : Int := (sign.map (·.priority)).getD 0
  have byOrder : (entries.insertionSort (·.order ≤ ·.order)).map (fun p => some p.drawing) =
      (entries.map fun p => some p.drawing).insertionSort (rank · ≤ rank ·) := by
    refine List.map_insertionSort _ _ _ _ fun p first q second => ?_
    have given {p : Placed Symbol} (member : p ∈ entries) : p.order = p.drawing.priority :=
      gather_priority (fun _ => Style.priority_symbol) (List.mem_filter.mp member).1
    rw [given first, given second]
    rfl
  have byElement : (shown.insertionSort (·.element.priority ≤ ·.element.priority)).map
      (fun p => w.sign? p.element) =
        (shown.map fun p => w.sign? p.element).insertionSort (rank · ≤ rank ·) := by
    refine List.map_insertionSort _ _ _ _ fun p first q second => ?_
    have given {p : Place} (member : p ∈ shown) : rank (w.sign? p.element) = p.element.priority :=
      priority_sign (List.mem_filter.mp member).2
    rw [given first, given second]
  have drawn := symbols_pictured spelled root generation zoom kind closed
  rw [sortBy_eq_insertionSort]
  exact byOrder.trans ((congrArg _ drawn).trans byElement.symm)

end Workshop

namespace Style

variable {s : Style} {keys : KeyTable} {images : Images} {settings : Settings} {root : Element}
  {pairs : List (String × String)}

theorem shapes_listed (s : Style) (images : Images) (settings : Settings)
    (isTheme : root.name = "rendertheme") (known : ∀ pair ∈ pairs, (keys.id? pair.1).isSome)
    (zoom : Nat) (closed : Bool) :
    let w := root.workshop keys images settings
    let tags := (keys.tags pairs).2
    ∃ l, s.load keys images settings root = .ok l ∧
      (l.style.paths zoom closed tags).map (·.drawing) =
        ((root.openTo w.categories ⟨zoom, .way, closed, pairs⟩).filter
          (·.element.name ∈ ["area", "line"])).map (fun p => w.path p.element) ∧
      (l.style.circles zoom tags).map (·.drawing) =
        ((root.openTo w.categories ⟨zoom, .node, closed, pairs⟩).filter
          (·.element.name = "circle")).map (fun p => w.circle p.element) ∧
      (l.style.paths zoom closed tags).Pairwise (·.index < ·.index) ∧
      (l.style.circles zoom tags).Pairwise (·.index < ·.index) := by
  intro w tags
  have spelled : w.keys.Spells tags pairs := KeyTable.tags_spell_known known
  obtain ⟨l, loaded, style⟩ := s.load_theme keys images settings isTheme
  refine ⟨l, loaded, ?_⟩
  rw [style]
  refine ⟨w.paths_places spelled .., w.circles_places spelled .., ?_, ?_⟩
  · rw [paths_eq (sheet_ofFindings _ _)]
    exact (Sheet.gather_indices _).filter _
  · rw [circles_eq (sheet_ofFindings _ _) closed]
    exact (Sheet.gather_indices _).filter _

def streets : Element :=
  ⟨"rendertheme", [], [⟨"rule", [("e", "way"), ("k", "highway"), ("zoom-min", "12")],
    [⟨"line", [], []⟩, ⟨"pathText", [("k", "name")], []⟩]⟩]⟩

def streetTags : List (String × String) := [("highway", "residential"), ("name", "Elm Street")]

def streetKeys : KeyTable := (KeyTable.tags {} streetTags).1

theorem street_drawn :
    ∃ l, ({} : Style).load streetKeys .none {} streets = .ok l ∧
      (l.style.paths 14 false (streetKeys.tags streetTags).2).length = 1 := by
  have isTheme : streets.name = "rendertheme" := rfl
  have known : ∀ pair ∈ streetTags, (streetKeys.id? pair.1).isSome := by decide +kernel
  obtain ⟨l, loaded, paths, _⟩ := shapes_listed {} .none {} isTheme known 14 false
  have count := congrArg List.length paths
  rw [List.length_map, List.length_map] at count
  exact ⟨l, loaded, count.trans (by decide +kernel)⟩

/-- A line right below the root, with no rule in between. -/
def bareLine : Element := ⟨"rendertheme", [], [⟨"line", [], []⟩]⟩

/-- What stands in no rule at all is not drawn. -/
theorem bare_line_unlisted :
    ∃ l, ({} : Style).load {} .none {} bareLine = .ok l ∧
      (l.style.paths 10 false []).map (·.drawing) ≠
        ((bareLine.descendants.filter fun p =>
          p.ruled (bareLine.categories {}) && p.admits ⟨10, .way, false, []⟩).filter
            (·.element.name ∈ ["area", "line"])).map fun p =>
              (bareLine.workshop {} .none {}).path p.element := by
  refine ⟨_, rfl, fun same => ?_⟩
  have lengths := congrArg List.length same
  rw [List.length_map, List.length_map] at lengths
  contradiction

theorem labels_listed (s : Style) (images : Images) (settings : Settings)
    (isTheme : root.name = "rendertheme") (known : ∀ pair ∈ pairs, (keys.id? pair.1).isSome)
    (zoom : Nat) (kind : Kind) (closed : Bool) :
    let w := root.workshop keys images settings
    let tags := (keys.tags pairs).2
    ∃ l, s.load keys images settings root = .ok l ∧
      ((l.style.labels zoom kind closed tags).map (·.drawing.priority)).Pairwise (· ≤ ·) ∧
      ((l.style.labels zoom kind closed tags).map fun p => some p.drawing).Perm
        (((root.openTo w.categories ⟨zoom, kind, closed, pairs⟩).filter fun p =>
          p.element.letters (·.suits kind closed) pairs && (w.labelKey? p.element).isSome).map
            fun p => (w.labelKey? p.element).map (w.label p.element)) ∧
      (l.style.labels zoom kind closed tags).Perm
        (textScan l.style.generation l.style.sheet.instructions.toList zoom kind closed tags
          (·.suits kind closed)) ∧
      ((l.style.labels zoom kind closed tags).map (·.index)).Nodup := by
  intro w tags
  have spelled : w.keys.Spells tags pairs := KeyTable.tags_spell_known known
  obtain ⟨l, loaded, style⟩ := s.load_theme keys images settings isTheme
  have sheet : l.style.sheet = .ofFindings l.style.generation (w.themeFindings root) := by
    rw [style]
    rfl
  refine ⟨l, loaded, labels_ascending sheet, ?_, ?_, labels_nodup sheet⟩
  · rw [style]
    exact w.labels_places spelled ..
  · rw [instructions_arranged sheet]
    exact labels_perm sheet

theorem street_labelled :
    ∃ l, ({} : Style).load streetKeys .none {} streets = .ok l ∧
      (l.style.labels 14 .way false (streetKeys.tags streetTags).2).length = 1 := by
  have isTheme : streets.name = "rendertheme" := rfl
  have known : ∀ pair ∈ streetTags, (streetKeys.id? pair.1).isSome := by decide +kernel
  obtain ⟨l, loaded, _, labels, _⟩ := labels_listed {} .none {} isTheme known 14 .way false
  have count := labels.length_eq
  rw [List.length_map, List.length_map] at count
  exact ⟨l, loaded, count.trans (by decide +kernel)⟩

/-- Two captions, of which only the second one stands in a rule. -/
def twoCaptions : Element :=
  ⟨"rendertheme", [], [⟨"caption", [("k", "name")], []⟩,
    ⟨"rule", [], [⟨"caption", [("k", "name")], []⟩]⟩]⟩

/-- One of them is shown, which is neither all that have nothing but rules between the
root and them, nor those of which the root is a rule as well. -/
theorem bare_caption_unlisted :
    let w := twoCaptions.workshop streetKeys .none {}
    let tags := [("name", "Town Hall")]
    let subject : Subject := ⟨10, .node, false, tags⟩
    let eligible (p : Place) : Bool :=
      p.element.letters (·.suits .node false) tags && (w.labelKey? p.element).isSome &&
        p.admits subject
    ∃ l, ({} : Style).load streetKeys .none {} twoCaptions = .ok l ∧
      ¬ ((l.style.labels 10 .node false (streetKeys.tags tags).2).map fun p => some p.drawing).Perm
        ((twoCaptions.descendants.filter fun p => eligible p && p.ruled w.categories).map
          fun p => (w.labelKey? p.element).map (w.label p.element)) ∧
      ¬ ((l.style.labels 10 .node false (streetKeys.tags tags).2).map fun p => some p.drawing).Perm
        ((twoCaptions.descendants.filter fun p =>
          eligible p && (twoCaptions :: p.trail).all (·.opens w.categories)).map
            fun p => (w.labelKey? p.element).map (w.label p.element)) := by
  intro w tags subject eligible
  refine ⟨_, rfl, fun same => ?_, fun same => ?_⟩
  · have lengths := same.length_eq
    rw [List.length_map, List.length_map] at lengths
    revert lengths
    decide +kernel
  · have lengths := same.length_eq
    rw [List.length_map, List.length_map] at lengths
    revert lengths
    decide +kernel

theorem symbols_listed (s : Style) (images : Images) (settings : Settings)
    (isTheme : root.name = "rendertheme") (known : ∀ pair ∈ pairs, (keys.id? pair.1).isSome)
    (zoom : Nat) (kind : Kind) (closed : Bool) :
    let w := root.workshop keys images settings
    let tags := (keys.tags pairs).2
    ∃ l, s.load keys images settings root = .ok l ∧
      l.style.symbols zoom .way false tags = [] ∧
      (kind = .node ∨ closed = true →
        l.style.symbols zoom kind closed tags =
            l.style.sheet.select l.style.sheet.symbols Drawing.symbol?
              (·.accepts zoom kind closed tags) ∧
          (l.style.symbols zoom kind closed tags).map (fun p => some p.drawing) =
            (((root.openTo w.categories ⟨zoom, kind, closed, pairs⟩).filter
              (·.element.isPicturedSymbol images)).insertionSort
                (·.element.priority ≤ ·.element.priority)).map
                  (fun p => (w.icon? p.element).map (Workshop.symbol p.element)) ∧
          l.style.ByPriority Drawing.symbol? Symbol.priority
            (l.style.symbols zoom kind closed tags) ∧
          ((l.style.symbols zoom kind closed tags).map (·.index)).Nodup) := by
  intro w tags
  have spelled : w.keys.Spells tags pairs := KeyTable.tags_spell_known known
  obtain ⟨l, loaded, style⟩ := s.load_theme keys images settings isTheme
  refine ⟨l, loaded, rfl, fun suited => ?_⟩
  have sheet : l.style.sheet = .ofFindings l.style.generation (w.themeFindings root) := by
    rw [style]
    rfl
  have marked : Placement.caption.suits kind closed = true := by
    rcases suited with rfl | rfl
    · rfl
    · cases kind <;> rfl
  let pool := Sheet.collect l.style.generation (fun _ => Drawing.symbol?)
    (arrange 0 (w.themeFindings root))
  have sorted : l.style.symbols zoom kind closed tags =
      sortBy (·.order) ((Sheet.gather l.style.generation (fun _ => Drawing.symbol?)
        (arrange 0 (w.themeFindings root))).filter (·.selector.accepts zoom kind closed tags)) := by
    rw [symbols_eq sheet, if_pos marked]
  have scanned : l.style.symbols zoom kind closed tags =
      pool.filter (·.selector.accepts zoom kind closed tags) :=
    sorted.trans (filter_sortBy _ _).symm
  have selected : l.style.sheet.select l.style.sheet.symbols Drawing.symbol?
      (·.accepts zoom kind closed tags) =
        pool.filter (·.selector.accepts zoom kind closed tags) := by
    rw [sheet]
    exact Sheet.select_listed _ .symbols (fun _ _ => rfl) (fun _ _ _ => id) _
  refine ⟨scanned.trans selected.symm, ?_, ?_, ?_⟩
  · rw [sorted]
    exact Workshop.symbols_sorted spelled root _ zoom kind closed
  · rw [scanned]
    exact byPriority_collected (fun _ => Drawing.symbol?) sheet (fun _ _ _ => id) priority_symbol _
  · have all : (pool.map (·.index)).Nodup := Sheet.collect_nodup
    rw [scanned]
    exact all.sublist (List.Sublist.map _ List.filter_sublist)

/-- Signs of nested rules, of which those for a hotel have priorities out of order and
one has no image. -/
def lodgings : Element :=
  ⟨"rendertheme", [], [⟨"rule", [("k", "tourism")],
    [⟨"symbol", [("src", "camp"), ("priority", "5")], []⟩,
     ⟨"rule", [("e", "node"), ("v", "hotel")],
      [⟨"symbol", [("src", "bed"), ("priority", "-1")], []⟩, ⟨"symbol", [("src", "lost")], []⟩]⟩,
     ⟨"symbol", [("src", "star"), ("priority", "5")], []⟩]⟩]⟩

def hotel : List (String × String) := [("tourism", "hotel")]

def lodgingKeys : KeyTable := (KeyTable.tags {} hotel).1

theorem lodging_signed :
    ∃ l, ({} : Style).load lodgingKeys (.ofNames ["bed", "camp", "star"]) {} lodgings = .ok l ∧
      (l.style.symbols 14 .node false (lodgingKeys.tags hotel).2).map
        (fun p => (p.drawing.priority, p.drawing.icon.path)) =
          [(-1, "bed"), (5, "camp"), (5, "star")] := by
  have isTheme : lodgings.name = "rendertheme" := rfl
  have known : ∀ pair ∈ hotel, (lodgingKeys.id? pair.1).isSome := by decide +kernel
  obtain ⟨l, loaded, _, shown⟩ :=
    symbols_listed {} (.ofNames ["bed", "camp", "star"]) {} isTheme known 14 .node false
  obtain ⟨_, drawn, _⟩ := shown (.inl rfl)
  have read := congrArg (List.filterMap (Option.map fun x => (x.priority, x.icon.path))) drawn
  rw [List.filterMap_map, List.filterMap_map] at read
  refine ⟨l, loaded, ?_⟩
  rw [← List.filterMap_eq_map']
  exact read.trans (by decide +kernel)

def twoPumps : Element :=
  ⟨"rendertheme", [], [⟨"symbol", [("src", "pump")], []⟩,
    ⟨"rule", [], [⟨"symbol", [("src", "pump")], []⟩]⟩]⟩

/-- Of two symbols the one right below the root is not shown. -/
theorem bare_symbol_unlisted :
    let images := Images.ofNames ["pump"]
    let w := twoPumps.workshop {} images {}
    let eligible (p : Place) : Bool :=
      p.element.isPicturedSymbol images && p.admits ⟨10, .node, false, []⟩
    ∃ l, ({} : Style).load {} images {} twoPumps = .ok l ∧
      ((l.style.symbols 10 .node false []).map fun p => some p.drawing) ≠
        ((twoPumps.descendants.filter fun p => eligible p && p.ruled w.categories).insertionSort
          (·.element.priority ≤ ·.element.priority)).map
            (fun p => (w.icon? p.element).map (Workshop.symbol p.element)) ∧
      ((l.style.symbols 10 .node false []).map fun p => some p.drawing) ≠
        ((twoPumps.descendants.filter fun p =>
          eligible p && (twoPumps :: p.trail).all (·.opens w.categories)).insertionSort
            (·.element.priority ≤ ·.element.priority)).map
              (fun p => (w.icon? p.element).map (Workshop.symbol p.element)) := by
  intro images w eligible
  refine ⟨_, rfl, fun same => ?_, fun same => ?_⟩
  · have lengths := congrArg List.length same
    rw [List.length_map, List.length_map] at lengths
    revert lengths
    decide +kernel
  · have lengths := congrArg List.length same
    rw [List.length_map, List.length_map] at lengths
    revert lengths
    decide +kernel

end Style
end MapTheme
