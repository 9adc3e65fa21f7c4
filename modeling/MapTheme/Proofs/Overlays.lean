import MapTheme.Proofs.Listing

/-! Switching on overlays only adds to what is drawn. A selection that leaves on whatever
another one has on enables at least its categories, and what a query lists for the other one
is then listed for it too, in the same order. -/
namespace MapTheme

namespace Menu

/-- Whether `b` chooses the layer that `a` chooses and has on each overlay of it that `a` has
on. -/
structure Widens (m : Menu) (a b : Selection) : Prop where
  chosen : m.chosenId a = m.chosenId b
  overlays : ∀ layer ∈ (m.chosenId a).bind m.layer?, ∀ id ∈ layer.overlays,
    ∀ overlay ∈ m.layer? id, isOn a overlay = true → isOn b overlay = true

variable {m : Menu} {a b : Selection}

private theorem enabledIds_subset (wider : m.Widens a b) : m.enabledIds a ⊆ m.enabledIds b := by
  rw [enabledIds, enabledIds, ← wider.chosen]
  cases chosen : (m.chosenId a).bind m.layer? with
  | none => exact List.Subset.refl _
  | some layer =>
    refine List.cons_subset_cons _ fun id member => ?_
    obtain ⟨listed, enabled⟩ := List.mem_filter.mp member
    obtain ⟨overlay, found, isOn⟩ := Option.any_eq_true _ _ |>.mp enabled
    have still := wider.overlays layer chosen id listed overlay found isOn
    exact List.mem_filter.mpr ⟨listed, Option.any_eq_true _ _ |>.mpr ⟨overlay, found, still⟩⟩

private theorem categories_subset (wider : m.Widens a b) : m.categories a ⊆ m.categories b := by
  intro category member
  obtain ⟨id, enabled, inside⟩ := List.mem_flatMap.mp member
  exact List.mem_flatMap.mpr ⟨id, enabledIds_subset wider enabled, inside⟩

end Menu

private theorem Element.categories_subset {root : Element} {a b : Selection}
    (wider : ∀ menu ∈ root.menu?, menu.Widens a b) : root.categories a ⊆ root.categories b := by
  rw [categories, categories]
  cases found : root.menu? with
  | none => exact List.Subset.refl _
  | some menu => exact Menu.categories_subset (wider menu found)

private theorem Element.opens_mono {fewer more : List String} (within : fewer ⊆ more) {e : Element}
    (opened : e.opens fewer = true) : e.opens more = true := by
  rw [opens, Bool.and_eq_true] at opened ⊢
  refine ⟨opened.1, ?_⟩
  cases given : e.get? "cat" with
  | none => rfl
  | some category =>
    have member : category ∈ fewer := by simpa [given] using opened.2
    simpa using within member

private theorem Place.reached_mono {fewer more : List String} (within : fewer ⊆ more) {p : Place}
    (reached : p.reached fewer = true) : p.reached more = true := by
  rw [Place.reached, Bool.and_eq_true] at reached ⊢
  refine ⟨reached.1, List.all_eq_true.mpr fun e member => ?_⟩
  exact Element.opens_mono within (List.all_eq_true.mp reached.2 e member)

private theorem filterMap_sublist {α β : Type} {f g : α → Option β}
    (kept : ∀ a b, f a = some b → g a = some b) (items : List α) :
    (items.filterMap f).Sublist (items.filterMap g) := by
  induction items with
  | nil => exact .slnil
  | cons a items ih =>
    cases found : f a with
    | some b =>
      rw [List.filterMap_cons_some found, List.filterMap_cons_some (kept a b found)]
      exact ih.cons_cons b
    | none =>
      rw [List.filterMap_cons_none found, List.filterMap_cons]
      split
      · exact ih
      · exact ih.cons _

/-- What is added to a list is sorted in between. -/
theorem sortBy_sublist {α : Type} {key : α → Int} {as bs : List α} (within : as.Sublist bs) :
    (sortBy key as).Sublist (sortBy key bs) := by
  have : IsTrans α (key · ≤ key ·) := ⟨fun _ _ _ => Int.le_trans⟩
  rw [sortBy_eq_insertionSort, sortBy_eq_insertionSort]
  induction within with
  | slnil => exact List.Sublist.refl _
  | @cons as bs b within ih => exact ih.trans (List.sublist_orderedInsert b _)
  | @cons_cons as bs b within ih =>
    refine ih.orderedInsert_sublist b ?_
    rw [← sortBy_eq_insertionSort]
    exact sortBy_ascending bs

namespace Placed

variable {α : Type} {ps qs : List (Placed α)}

/-- What is placed, with no regard to where. -/
def bare (p : Placed α) : Selector × α := (p.selector, p.drawing)

private theorem bare_sort_sublist {priority : α → Int}
    (ordered : ∀ p ∈ ps, p.order = priority p.drawing)
    (alsoOrdered : ∀ q ∈ qs, q.order = priority q.drawing)
    (within : (ps.map bare).Sublist (qs.map bare)) :
    ((sortBy (·.order) ps).map bare).Sublist ((sortBy (·.order) qs).map bare) := by
  have sorted {rs : List (Placed α)} (ordered : ∀ r ∈ rs, r.order = priority r.drawing) :
      (sortBy (·.order) rs).map bare = sortBy (fun x => priority x.2) (rs.map bare) :=
    map_sortBy bare rs fun r member => (ordered r member).symm
  rw [sorted ordered, sorted alsoOrdered]
  exact sortBy_sublist within

end Placed

namespace Workshop
open Sheet

variable {α : Type} {w v : Workshop} {root : Element} {tags : List Tag} {zoom : Nat} {kind : Kind}
  {closed : Bool}

/-- Whether all that the one workshop draws is drawn by the other one as well. -/
def Within (w v : Workshop) : Prop := ∀ p drawn, w.drawnAt? p = some drawn → v.drawnAt? p = some drawn

private theorem gather_within (within : w.Within v) (root : Element) (first second : Nat)
    (pick : Drawing → Option α) (keep : Selector × α → Bool) :
    (((gather first (fun _ => pick) (arrange 0 (w.themeFindings root))).filter
        fun p => keep p.bare).map Placed.bare).Sublist
      (((gather second (fun _ => pick) (arrange 0 (v.themeFindings root))).filter
        fun p => keep p.bare).map Placed.bare) := by
  let make (s : Selector) (x : α) : Option (Selector × α) := if keep (s, x) then some (s, x) else none
  have listed (w : Workshop) (generation : Nat) :
      ((gather generation (fun _ => pick) (arrange 0 (w.themeFindings root))).filter
          fun p => keep p.bare).map Placed.bare =
        root.descendants.filterMap fun p =>
          (w.drawnAt? p).bind fun drawn => (pick drawn.2).bind (make drawn.1) := by
    rw [map_filter]
    exact gather_places w root generation (fun _ => pick) make
  rw [listed, listed]
  refine filterMap_sublist (fun p x found => ?_) _
  obtain ⟨drawn, here, made⟩ := Option.bind_eq_some_iff.mp found
  rw [within p drawn here]
  exact made

theorem paths_within (within : w.Within v) (first second : Nat) :
    (((.ofFindings first (w.themeFindings root) : Style).paths zoom closed tags).map
        Placed.bare).Sublist
      (((.ofFindings second (v.themeFindings root) : Style).paths zoom closed tags).map
        Placed.bare) := by
  rw [Style.paths_eq (Style.sheet_ofFindings _ _), Style.paths_eq (Style.sheet_ofFindings _ _)]
  exact gather_within within root _ _ Drawing.path? fun x => x.1.accepts zoom .way closed tags

theorem circles_within (within : w.Within v) (first second : Nat) :
    (((.ofFindings first (w.themeFindings root) : Style).circles zoom tags).map
        Placed.bare).Sublist
      (((.ofFindings second (v.themeFindings root) : Style).circles zoom tags).map
        Placed.bare) := by
  rw [Style.circles_eq (Style.sheet_ofFindings _ _) false,
    Style.circles_eq (Style.sheet_ofFindings _ _) false]
  exact gather_within within root _ _ Drawing.circle? fun x => x.1.accepts zoom .node false tags

theorem texts_within (within : w.Within v) (first second : Nat) (fits : Placement → Bool) :
    ((sortBy (·.order) (Style.textScan first (arrange 0 (w.themeFindings root)) zoom kind closed
        tags fits)).map Placed.bare).Sublist
      ((sortBy (·.order) (Style.textScan second (arrange 0 (v.themeFindings root)) zoom kind closed
        tags fits)).map Placed.bare) := by
  have scanned := gather_within within root first second (Drawing.labelFor? fits)
    fun x => x.1.accepts zoom kind closed tags && tags.any (·.key = x.2.key)
  exact Placed.bare_sort_sublist (fun p => Style.textScan_priority)
    (fun p => Style.textScan_priority) scanned

theorem labels_within (within : w.Within v) (first second : Nat) :
    (((.ofFindings first (w.themeFindings root) : Style).labels zoom kind closed tags).map
        Placed.bare).Sublist
      (((.ofFindings second (v.themeFindings root) : Style).labels zoom kind closed tags).map
        Placed.bare) := by
  have lettered (w : Workshop) (generation : Nat) (here there : Placement → Bool)
      (p : Placed Label)
      (member : p ∈
        sortBy (·.order) (Style.textScan generation (arrange 0 (w.themeFindings root)) zoom kind
          closed tags here) ++
        sortBy (·.order) (Style.textScan generation (arrange 0 (w.themeFindings root)) zoom kind
          closed tags there)) :
      p.order = p.drawing.priority := by
    rcases List.mem_append.mp member with inside | inside
    · exact Style.textScan_priority (mem_sortBy.mp inside)
    · exact Style.textScan_priority (mem_sortBy.mp inside)
  rw [Style.labels_eq (Style.sheet_ofFindings _ _), Style.labels_eq (Style.sheet_ofFindings _ _)]
  refine Placed.bare_sort_sublist (lettered w _ _ _) (lettered v _ _ _) ?_
  rw [List.map_append, List.map_append]
  exact (texts_within within _ _ _).append (texts_within within _ _ _)

theorem symbols_within (within : w.Within v) (first second : Nat) :
    (((.ofFindings first (w.themeFindings root) : Style).symbols zoom kind closed tags).map
        Placed.bare).Sublist
      (((.ofFindings second (v.themeFindings root) : Style).symbols zoom kind closed tags).map
        Placed.bare) := by
  have given (w : Workshop) (generation : Nat) (p : Placed Symbol)
      (member : p ∈
        (gather generation (fun _ => Drawing.symbol?) (arrange 0 (w.themeFindings root))).filter
          (·.selector.accepts zoom kind closed tags)) : p.order = p.drawing.priority :=
    gather_priority (fun _ => Style.priority_symbol) (List.mem_filter.mp member).1
  rw [Style.symbols_eq (Style.sheet_ofFindings _ _), Style.symbols_eq (Style.sheet_ofFindings _ _)]
  split
  · refine Placed.bare_sort_sublist (given w _) (given v _) ?_
    exact gather_within within root _ _ Drawing.symbol? fun x => x.1.accepts zoom kind closed tags
  · exact List.Sublist.refl _

private theorem within_of_categories {keys : Dictionary} {images : Images} {settings : Settings}
    {a b : Selection} (wider : root.categories a ⊆ root.categories b) :
    (root.workshop keys images { settings with selection := a }).Within
      (root.workshop keys images { settings with selection := b }) := by
  intro p drawn here
  rw [drawnAt?] at here ⊢
  split at here
  · next reached =>
    have still : p.reached
        (root.workshop keys images { settings with selection := b }).categories = true :=
      Place.reached_mono wider reached
    rw [if_pos still]
    exact here
  · contradiction

end Workshop

namespace Style

/-- A selection that has on what another one has on shows all that the other one shows, in
the same order. -/
theorem overlays_add (s t : Style) (keys : Dictionary) (images : Images) (settings : Settings)
    {root : Element} {a b : Selection} (isTheme : root.name = "rendertheme")
    (wider : ∀ menu ∈ root.menu?, menu.Widens a b) :
    ∃ l m, s.load keys images { settings with selection := a } root = .ok l ∧
      t.load keys images { settings with selection := b } root = .ok m ∧
      ∀ (zoom : Nat) (kind : Kind) (closed : Bool) (tags : List Tag),
        ((l.style.paths zoom closed tags).map Placed.bare).Sublist
            ((m.style.paths zoom closed tags).map Placed.bare) ∧
          ((l.style.circles zoom tags).map Placed.bare).Sublist
            ((m.style.circles zoom tags).map Placed.bare) ∧
          ((l.style.labels zoom kind closed tags).map Placed.bare).Sublist
            ((m.style.labels zoom kind closed tags).map Placed.bare) ∧
          ((l.style.symbols zoom kind closed tags).map Placed.bare).Sublist
            ((m.style.symbols zoom kind closed tags).map Placed.bare) := by
  obtain ⟨l, loaded, style⟩ := s.load_theme keys images { settings with selection := a } isTheme
  obtain ⟨m, other, wide⟩ := t.load_theme keys images { settings with selection := b } isTheme
  have within : (root.workshop keys images { settings with selection := a }).Within
      (root.workshop keys images { settings with selection := b }) :=
    Workshop.within_of_categories (Element.categories_subset wider)
  refine ⟨l, m, loaded, other, fun zoom kind closed tags => ?_⟩
  rw [style, wide]
  exact ⟨Workshop.paths_within within _ _, Workshop.circles_within within _ _,
    Workshop.labels_within within _ _, Workshop.symbols_within within _ _⟩

def hikingMenu : Element :=
  ⟨"stylemenu", [("defaultvalue", "base")],
    [⟨"layer", [("id", "base")], [⟨"cat", [("id", "roads")], []⟩, ⟨"overlay", [("id", "hiking")], []⟩]⟩,
      ⟨"layer", [("id", "hiking")], [⟨"cat", [("id", "trails")], []⟩]⟩]⟩

/-- A map with an overlay of trails, which is off unless it is switched on. -/
def hikingMap : Element :=
  ⟨"rendertheme", [], [hikingMenu,
    ⟨"rule", [("e", "way"), ("cat", "trails")], [⟨"line", [], []⟩]⟩,
    ⟨"rule", [("e", "way"), ("cat", "roads")], [⟨"line", [], []⟩, ⟨"area", [], []⟩]⟩]⟩

theorem hiking_adds :
    let on : Selection := ({} : Selection).switch "hiking" true
    (∀ menu ∈ hikingMap.menu?, menu.Widens {} on) ∧
      ∃ l m, ({} : Style).load {} .none {} hikingMap = .ok l ∧
        ({} : Style).load {} .none { selection := on } hikingMap = .ok m ∧
        ((l.style.paths 10 false []).map Placed.bare).Sublist
          ((m.style.paths 10 false []).map Placed.bare) ∧
        (l.style.paths 10 false []).length = 2 ∧ (m.style.paths 10 false []).length = 3 := by
  intro on
  have wider : ∀ menu ∈ hikingMap.menu?, menu.Widens {} on := by
    intro menu found
    obtain rfl : Menu.ofElement hikingMenu = menu := Option.some.inj found
    exact ⟨rfl, by decide +kernel⟩
  obtain ⟨l, m, loaded, other, within⟩ := overlays_add {} {} {} .none {} rfl wider
  have less : (({} : Style).load {} .none {} hikingMap).toOption.map
      (fun l => (l.style.paths 10 false []).length) = some 2 := by decide +kernel
  have more : (({} : Style).load {} .none { selection := on } hikingMap).toOption.map
      (fun l => (l.style.paths 10 false []).length) = some 3 := by decide +kernel
  have loaded : ({} : Style).load {} .none {} hikingMap = .ok l := loaded
  rw [loaded] at less
  rw [other] at more
  exact ⟨wider, l, m, loaded, other, (within 10 .way false []).1, Option.some.inj less,
    Option.some.inj more⟩

end Style
end MapTheme
