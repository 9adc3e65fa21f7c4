import MapTheme.Proofs.Ordering
import MapTheme.Proofs.Origin
import MapTheme.Proofs.Withholding

/-! Presentation never decides what is selected. Two loads of one theme that differ in the
images that are found and in the sizes asked for draw the same places with the same rules, in
the same order and the same colors; only symbols come and go with their images. -/
namespace MapTheme

/-- Two paths for one element that differ at most in sizes and in the pattern of an area. -/
structure Path.Alike (e : Element) (p q : Path) : Prop where
  area : p.area = q.area
  stroke : p.stroke = q.stroke
  cap : p.cap = q.cap
  join : p.join = q.join
  curve : p.curve = q.curve
  mode : p.mode = q.mode
  brush : p.brush ≠ q.brush → p.area = true ∧ e.has "src" = true

structure Circle.Alike (c d : Circle) : Prop where
  stroke : c.stroke = d.stroke
  fill : c.fill = d.fill
  grows : c.grows = d.grows

structure Label.Alike (l m : Label) : Prop where
  key : l.key = m.key
  priority : l.priority = m.priority
  fill : l.fill = m.fill
  stroke : l.stroke = m.stroke
  family : l.font.family = m.font.family
  style : l.font.style = m.font.style

namespace Workshop
open Sheet

variable (w : Workshop) (images : Images) (settings : Settings)

private theorem path_alike (e : Element) :
    (w.path e).Alike e ((w.presenting images settings).path e) := by
  by_cases isArea : e.name = "area"
  · simp only [path, if_pos isArea]
    refine ⟨rfl, rfl, rfl, rfl, rfl, rfl, fun differ => ⟨rfl, ?_⟩⟩
    rw [Element.has, Option.isSome_iff_ne_none]
    intro absent
    have unmade (u : Workshop) : u.icon? e = none := by rw [icon?, absent]; rfl
    exact differ (by simp only [area, unmade])
  · simp only [path, if_neg isArea]
    exact ⟨rfl, rfl, rfl, rfl, rfl, rfl, fun differ => absurd rfl differ⟩

private theorem circle_alike (e : Element) :
    (w.circle e).Alike ((w.presenting images settings).circle e) := ⟨rfl, rfl, rfl⟩

private theorem label_alike (e : Element) (key : Nat) :
    (w.label e key).Alike ((w.presenting images settings).label e key) := by
  -- The labels are opened first, since as a whole they are not equal.
  constructor <;> simp only [label]

private theorem isShapeAt_eq (p : Place) :
    w.isShapeAt p = (p.reached w.categories && p.element.name ∈ ["area", "line", "circle"]) := by
  have found : w.isShapeAt p = ((w.drawnAt? p).filter (·.2.isShape)).isSome := by
    rw [isShapeAt]
    cases w.drawnAt? p with
    | none => rfl
    | some drawn => cases shape : drawn.2.isShape <;> simp [shape, Option.filter]
  rw [found, drawn_shape]
  split
  · next shape => rw [shape]; rfl
  · next other => exact (Bool.eq_false_iff.mpr other).symm

private theorem isShapeAt_presenting (p : Place) :
    w.isShapeAt p = (w.presenting images settings).isShapeAt p := by
  rw [isShapeAt_eq, isShapeAt_eq]
  rfl

variable {w images settings} {root : Element} {generation other : Nat}

section
variable {α : Type} {pick : Selector → Drawing → Option α} {alike : Element → α → α → Prop}
  (related : ∀ s e, Option.Rel (alike e) ((w.drawing? s e).bind (pick s))
    (((w.presenting images settings).drawing? s e).bind (pick s)))
include related

private theorem collect_twins {order : Nat → α → Int}
    (ordered : ∀ s d x, pick s d = some x → ∀ next : Nat, d.priority?.getD next = order next x)
    (sameOrder : ∀ e x y, alike e x y → ∀ next, order next x = order next y) :
    List.Forall₂ (w.Twins (w.presenting images settings) root alike)
      (collect generation pick (arrange 0 (w.themeFindings root)))
      (collect other pick (arrange 0 ((w.presenting images settings).themeFindings root))) := by
  have selectors : w.selector = (w.presenting images settings).selector := rfl
  have categories : w.categories = (w.presenting images settings).categories := rfl
  exact twins_sortBy
    (gather_twins selectors categories (w.isShapeAt_presenting images settings) ordered sameOrder
      related)

private theorem shapes_twins (shapes : ∀ s d x, pick s d = some x → d.isShape = true) :
    List.Forall₂ (w.Twins (w.presenting images settings) root alike)
      (collect generation pick (arrange 0 (w.themeFindings root)))
      (collect other pick (arrange 0 ((w.presenting images settings).themeFindings root))) := by
  let order (next : Nat) (_ : α) : Int := next
  have ordered (s : Selector) (d : Drawing) (x : α) (picked : pick s d = some x) (next : Nat) :
      d.priority?.getD next = order next x := by
    have none : d.priority? = none := Option.isNone_iff_eq_none.mp (shapes s d x picked)
    rw [none, Option.getD_none]
  exact collect_twins related ordered fun _ _ _ _ _ => rfl

private theorem texts_twins {priority : α → Int}
    (given : ∀ s d x, pick s d = some x → d.priority? = some (priority x))
    (same : ∀ e x y, alike e x y → priority x = priority y) :
    List.Forall₂ (w.Twins (w.presenting images settings) root alike)
      (collect generation pick (arrange 0 (w.themeFindings root)))
      (collect other pick (arrange 0 ((w.presenting images settings).themeFindings root))) := by
  let order (_ : Nat) (x : α) : Int := priority x
  have ordered (s : Selector) (d : Drawing) (x : α) (picked : pick s d = some x) (next : Nat) :
      d.priority?.getD next = order next x := by
    rw [given s d x picked, Option.getD_some]
  exact collect_twins related ordered fun e x y pair _ => same e x y pair

end

private theorem labels_alike {named : Prop} [Decidable named] (e : Element) :
    Option.Rel Label.Alike (if named then (w.labelKey? e).map (w.label e) else none)
      (if named then ((w.presenting images settings).labelKey? e).map
        ((w.presenting images settings).label e) else none) := by
  have known : (w.presenting images settings).labelKey? e = w.labelKey? e := rfl
  rw [known]
  split
  · cases w.labelKey? e with
    | none => exact .none
    | some key => exact .some (w.label_alike images settings e key)
  · exact .none

theorem paths_twins :
    List.Forall₂ (w.Twins (w.presenting images settings) root Path.Alike)
      (collect generation (fun _ => Drawing.path?) (arrange 0 (w.themeFindings root)))
      (collect other (fun _ => Drawing.path?)
        (arrange 0 ((w.presenting images settings).themeFindings root))) := by
  refine shapes_twins (fun s e => ?_) fun _ => isShape_path
  rw [drawing_path, drawing_path]
  split
  · exact .some (w.path_alike images settings e)
  · exact .none

theorem circles_twins :
    List.Forall₂ (w.Twins (w.presenting images settings) root fun _ => Circle.Alike)
      (collect generation (fun _ => Drawing.circle?) (arrange 0 (w.themeFindings root)))
      (collect other (fun _ => Drawing.circle?)
        (arrange 0 ((w.presenting images settings).themeFindings root))) := by
  refine shapes_twins (fun s e => ?_) fun _ => isShape_circle
  rw [drawing_circle, drawing_circle]
  split
  · exact .some (w.circle_alike images settings e)
  · exact .none

theorem pathLabels_twins :
    List.Forall₂ (w.Twins (w.presenting images settings) root fun _ => Label.Alike)
      (collect generation pathLabel? (arrange 0 (w.themeFindings root)))
      (collect other pathLabel?
        (arrange 0 ((w.presenting images settings).themeFindings root))) := by
  have given (s : Selector) (d : Drawing) (l : Label) (picked : pathLabel? s d = some l) :
      d.priority? = some l.priority := Style.priority_label d l (picked_along s d l picked)
  refine texts_twins (fun s e => ?_) given fun _ _ _ alike => alike.priority
  rw [drawing_pathLabel, drawing_pathLabel]
  exact labels_alike e

theorem captions_twins (kind : Kind) :
    List.Forall₂ (w.Twins (w.presenting images settings) root fun _ => Label.Alike)
      (collect generation (caption? kind) (arrange 0 (w.themeFindings root)))
      (collect other (caption? kind)
        (arrange 0 ((w.presenting images settings).themeFindings root))) := by
  have given (s : Selector) (d : Drawing) (l : Label) (picked : caption? kind s d = some l) :
      d.priority? = some l.priority :=
    Style.priority_label d l (picked_caption kind s d l picked)
  refine texts_twins (fun s e => ?_) given fun _ _ _ alike => alike.priority
  rw [drawing_caption, drawing_caption]
  exact labels_alike e

/-- Whether the image that is named at a place is found by both of two workshops. -/
def shares (w v : Workshop) (spot : Spot) : Bool := w.finds spot.1.element && v.finds spot.1.element

private theorem filter_collect {α : Type} (pick : Selector → Drawing → Option α)
    (instructions : List Instruction) (keep : Placed α → Bool) :
    (collect generation pick instructions).filter keep =
      sortBy (·.order) ((gather generation pick instructions).filter keep) :=
  filter_sortBy keep _

theorem symbols_twins {v : Workshop} (same : v = w.presenting images settings) (root : Element) :
    List.Forall₂ (w.Twins v root fun _ x y => x.priority = y.priority)
      ((collect generation (fun _ => Drawing.symbol?) (arrange 0 (w.themeFindings root))).filter
        fun p => (w.source? root p).any (w.shares v))
      ((collect other (fun _ => Drawing.symbol?) (arrange 0 (v.themeFindings root))).filter
        fun p => (v.source? root p).any (w.shares v)) := by
  subst same
  let v := w.presenting images settings
  let order (_ : Nat) (x : Symbol) : Int := x.priority
  have ordered (s : Selector) (d : Drawing) (x : Symbol) (picked : d.symbol? = some x) (next : Nat) :
      d.priority?.getD next = order next x := by
    rw [Style.priority_symbol d x picked, Option.getD_some]
  have selectors : w.selector = v.selector := rfl
  have categories : w.categories = v.categories := rfl
  rw [filter_collect, filter_collect]
  refine twins_sortBy
    (kept_twins selectors categories ordered (fun _ _ _ alike _ => alike) (fun s spot shared => ?_)
      (w.isShapeAt_presenting images settings))
  rw [shares, Bool.and_eq_true, ← icon_isSome, ← icon_isSome] at shared
  obtain ⟨icon, found⟩ := Option.isSome_iff_exists.mp shared.1
  obtain ⟨other, alsoFound⟩ := Option.isSome_iff_exists.mp shared.2
  rw [drawing_symbol, drawing_symbol, found, alsoFound]
  split
  · exact .some rfl
  · exact .none

theorem symbols_shared (v : Workshop) :
    (((collect generation (fun _ => Drawing.symbol?) (arrange 0 (w.themeFindings root))).filter
        fun p => (w.source? root p).any (w.shares v)).filterMap (w.source? root)).Perm
      (root.spots.filter fun spot =>
        spot.1.reached w.categories && spot.1.element.name = "symbol" && w.shares v spot) := by
  rw [filter_collect]
  refine ((sortBy_perm _).filterMap _).trans (.of_eq ?_)
  rw [sources_kept]
  refine List.filter_congr fun spot _ => ?_
  rw [Bool.and_comm]
  cases shared : w.shares v spot with
  | false => rw [Bool.and_false, Bool.and_false]
  | true =>
    rw [shares, Bool.and_eq_true, ← icon_isSome] at shared
    obtain ⟨icon, found⟩ := Option.isSome_iff_exists.mp shared.1
    have drawn : (w.drawnAt? spot.1).bind (fun drawn => drawn.2.symbol?) =
        if spot.1.reached w.categories then
          (w.drawing? (w.selector spot.1.trail) spot.1.element).bind Drawing.symbol?
        else none := by
      rw [drawnAt?]
      split
      · rw [Option.bind_map]
        rfl
      · rfl
    rw [drawn, drawing_symbol, found, Bool.and_true, Bool.and_true]
    cases spot.1.reached w.categories <;> by_cases named : spot.1.element.name = "symbol" <;>
      simp [named]

end Workshop

/-- Two sheets of one theme that differ at most in their presentation. Both are whole, so
that the entries compared are those of all handles in their lists. -/
structure Sheet.Parallel (w v : Workshop) (root : Element) (s t : Sheet) : Prop where
  whole : s.Whole
  otherWhole : t.Whole
  drawn : ∀ p ∈ s.entries .paths Drawing.path?, ∃ spot ∈ root.spots,
    w.source? root p = some spot ∧ w.drawnAt? spot.1 = some (p.selector, .path p.drawing)
  paths : List.Forall₂ (w.Twins v root Path.Alike) (s.entries .paths Drawing.path?)
    (t.entries .paths Drawing.path?)
  circles : List.Forall₂ (w.Twins v root fun _ => Circle.Alike)
    (s.entries .circles Drawing.circle?) (t.entries .circles Drawing.circle?)
  pathLabels : List.Forall₂ (w.Twins v root fun _ => Label.Alike)
    (s.entries .pathLabels Drawing.label?) (t.entries .pathLabels Drawing.label?)
  pointLabels : List.Forall₂ (w.Twins v root fun _ => Label.Alike)
    (s.entries .pointLabels Drawing.label?) (t.entries .pointLabels Drawing.label?)
  areaLabels : List.Forall₂ (w.Twins v root fun _ => Label.Alike)
    (s.entries .areaLabels Drawing.label?) (t.entries .areaLabels Drawing.label?)
  symbols : List.Forall₂ (w.Twins v root fun _ x y => x.priority = y.priority)
    ((s.entries .symbols Drawing.symbol?).filter fun p => (w.source? root p).any (w.shares v))
    ((t.entries .symbols Drawing.symbol?).filter fun p => (v.source? root p).any (w.shares v))
  shared : (((s.entries .symbols Drawing.symbol?).filter fun p =>
      (w.source? root p).any (w.shares v)).filterMap (w.source? root)).Perm
    (root.spots.filter fun spot =>
      spot.1.reached w.categories && spot.1.element.name = "symbol" && w.shares v spot)

namespace Workshop
open Sheet

variable {w v : Workshop} {images : Images} {settings : Settings} {generation : Nat}

private theorem path_drawn {p : Placed Path} (root : Element)
    (member : p ∈ collect generation (fun _ => Drawing.path?) (arrange 0 (w.themeFindings root))) :
    ∃ spot ∈ root.spots, w.source? root p = some spot ∧
      w.drawnAt? spot.1 = some (p.selector, .path p.drawing) := by
  rw [collect, mem_sortBy] at member
  obtain ⟨spot, drawing, source, inside, drawn, picked⟩ := w.source_drawn root member
  cases drawing with
  | path own =>
    obtain rfl : own = p.drawing := Option.some.inj picked
    exact ⟨spot, inside, source, drawn⟩
  | _ => contradiction

theorem sheets_parallel (same : v = w.presenting images settings) (root : Element)
    (generation other : Nat) :
    Sheet.Parallel w v root (.ofFindings generation (w.themeFindings root))
      (.ofFindings other (v.themeFindings root)) := by
  subst same
  constructor
  case whole => exact whole_ofInstructions _ _
  case otherWhole => exact whole_ofInstructions _ _
  case drawn =>
    rw [ofFindings, entries_listed (fun _ => Drawing.path?) .paths (fun _ _ => rfl) fun _ _ _ => id]
    exact fun p => path_drawn root
  case paths =>
    simp only [ofFindings,
      entries_listed (fun _ => Drawing.path?) .paths (fun _ _ => rfl) fun _ _ _ => id]
    exact paths_twins
  case circles =>
    simp only [ofFindings,
      entries_listed (fun _ => Drawing.circle?) .circles (fun _ _ => rfl) fun _ _ _ => id]
    exact circles_twins
  case pathLabels =>
    simp only [ofFindings, entries_listed pathLabel? .pathLabels (fun _ _ => rfl) picked_along]
    exact pathLabels_twins
  case pointLabels =>
    simp only [ofFindings,
      entries_listed (caption? .node) .pointLabels (fun _ _ => rfl) (picked_caption .node)]
    exact captions_twins .node
  case areaLabels =>
    simp only [ofFindings,
      entries_listed (caption? .way) .areaLabels (fun _ _ => rfl) (picked_caption .way)]
    exact captions_twins .way
  case symbols =>
    simp only [ofFindings,
      entries_listed (fun _ => Drawing.symbol?) .symbols (fun _ _ => rfl) fun _ _ _ => id]
    exact symbols_twins rfl root
  case shared =>
    rw [ofFindings,
      entries_listed (fun _ => Drawing.symbol?) .symbols (fun _ _ => rfl) fun _ _ _ => id]
    exact symbols_shared _

theorem tallies_equal (same : v = w.presenting images settings) (root : Element)
    (generation other : Nat) :
    { (Sheet.ofFindings generation (w.themeFindings root)).tally (w.themeFindings root) with
        symbols := 0, missingImages := 0 } =
      { (Sheet.ofFindings other (v.themeFindings root)).tally (v.themeFindings root) with
        symbols := 0, missingImages := 0 } := by
  have lengths {α : Type} {R : Placed α → Placed α → Prop} (o : Output)
      {pick : Selector → Drawing → Option α} (picks : ∀ s d, (pick s d).isSome = o.picks s d)
      (twins : List.Forall₂ R (collect generation pick (arrange 0 (w.themeFindings root)))
        (collect other pick (arrange 0 (v.themeFindings root)))) :
      ((ofFindings generation (w.themeFindings root)).listed o).length =
        ((ofFindings other (v.themeFindings root)).listed o).length := by
    rw [ofFindings, ofFindings, listed_ofInstructions pick o picks,
      listed_ofInstructions pick o picks, List.length_map, List.length_map, twins.length_eq]
  have pruned : (w.themeFindings root).countP Finding.isPruned =
      (v.themeFindings root).countP Finding.isPruned := by
    rw [same]
    exact counts_presenting (fun f counts => by rw [Finding.withheld, counts, Bool.true_or]) root
  have skipped : (w.themeFindings root).countP Finding.isSkipped =
      (v.themeFindings root).countP Finding.isSkipped := by
    rw [same]
    exact counts_presenting (fun f counts => by rw [Finding.withheld, counts, Bool.or_true]) root
  subst same
  have paths := lengths .paths (fun _ _ => rfl) paths_twins
  have circles := lengths .circles (fun _ _ => rfl) circles_twins
  have pathLabels := lengths .pathLabels (fun _ _ => rfl) pathLabels_twins
  have pointLabels := lengths .pointLabels (fun _ _ => rfl) (captions_twins .node)
  have areaLabels := lengths .areaLabels (fun _ _ => rfl) (captions_twins .way)
  simp only [listed] at paths circles pathLabels pointLabels areaLabels
  simp only [Sheet.tally, paths, circles, pathLabels, pointLabels, areaLabels, pruned, skipped]

end Workshop

namespace Style

private theorem select_related {α : Type} {w v : Workshop} {root : Element} {a b : Sheet}
    {o : Output} {project : Drawing → Option α} {alike : Element → α → α → Prop}
    (entries : List.Forall₂ (w.Twins v root alike) (a.entries o project) (b.entries o project))
    (keep : Selector → Bool) :
    List.Forall₂ (w.Twins v root alike) (a.select (a.listed o) project keep)
      (b.select (b.listed o) project keep) := by
  rw [Sheet.select_entries, Sheet.select_entries]
  exact filter_related (fun p q twins => by rw [Workshop.twins_selector twins]) entries

theorem labels_related {w v : Workshop} {root : Element} {a b : Style}
    (parallel : Sheet.Parallel w v root a.sheet b.sheet) (zoom : Nat) (kind : Kind) (closed : Bool)
    (tags : List Tag) :
    List.Forall₂ (w.Twins v root fun _ => Label.Alike) (a.labels zoom kind closed tags)
      (b.labels zoom kind closed tags) := by
  have level (o : Output) (entries : List.Forall₂ (w.Twins v root fun _ => Label.Alike)
        (a.sheet.entries o Drawing.label?) (b.sheet.entries o Drawing.label?)) :
      List.Forall₂ (w.Twins v root fun _ => Label.Alike)
        (a.sheet.select (a.sheet.listed o) Drawing.label? (·.containsZoom zoom))
        (b.sheet.select (b.sheet.listed o) Drawing.label? (·.containsZoom zoom)) :=
    select_related entries _
  have candidates : List.Forall₂ (w.Twins v root fun _ => Label.Alike)
      (a.labelCandidates zoom kind closed) (b.labelCandidates zoom kind closed) := by
    cases kind with
    | node => exact level .pointLabels parallel.pointLabels
    | way =>
      cases closed with
      | false => exact level .pathLabels parallel.pathLabels
      | true =>
        exact Workshop.twins_sortBy
          (List.rel_append (level .areaLabels parallel.areaLabels)
            (level .pathLabels parallel.pathLabels))
  refine filter_related (fun p q twins => ?_) candidates
  obtain ⟨_, _, _, selector, _, alike⟩ := twins
  have selector : p.selector = q.selector := selector
  have key : p.drawing.key = q.drawing.key := alike.key
  rw [selector, key]

/-- A theme is drawn with the same rules, order and colors whatever images are found and
whatever sizes are asked for. -/
theorem presentation_parallel (a b : Style) (keys : Dictionary) (first second : Images)
    (settings : Settings) (ratio : Float) (scale : ZoomScale) {root : Element}
    (isTheme : root.name = "rendertheme") :
    let w := root.workshop keys first settings
    let v := root.workshop keys second { settings with ratio, scale }
    ∃ l m, a.load keys first settings root = .ok l ∧
      b.load keys second { settings with ratio, scale } root = .ok m ∧
      Sheet.Parallel w v root l.style.sheet m.style.sheet ∧
      { l.tally with symbols := 0, missingImages := 0 } =
        { m.tally with symbols := 0, missingImages := 0 } ∧
      ∀ (zoom : Nat) (kind : Kind) (closed : Bool) (tags : List Tag),
        List.Forall₂ (w.Twins v root Path.Alike) (l.style.paths zoom closed tags)
            (m.style.paths zoom closed tags) ∧
          List.Forall₂ (w.Twins v root fun _ => Circle.Alike) (l.style.circles zoom tags)
            (m.style.circles zoom tags) ∧
          List.Forall₂ (w.Twins v root fun _ => Label.Alike) (l.style.labels zoom kind closed tags)
            (m.style.labels zoom kind closed tags) := by
  intro w v
  obtain ⟨l, loaded, style, tally⟩ := a.load_tally keys first settings isTheme
  obtain ⟨m, other, otherStyle, otherTally⟩ :=
    b.load_tally keys second { settings with ratio, scale } isTheme
  have same : v = w.presenting second { settings with ratio, scale } := rfl
  have parallel : Sheet.Parallel w v root l.style.sheet m.style.sheet := by
    rw [style, otherStyle]
    exact Workshop.sheets_parallel same root _ _
  refine ⟨l, m, loaded, other, parallel, ?_, fun zoom kind closed tags => ⟨?_, ?_, ?_⟩⟩
  · rw [tally, otherTally, style, otherStyle]
    exact Workshop.tallies_equal same root _ _
  · exact select_related parallel.paths _
  · exact select_related parallel.circles _
  · exact labels_related parallel zoom kind closed tags

/-- A wood with a pattern, an inn and a well with signs, and their names. -/
def outing : Element :=
  ⟨"rendertheme", [], [⟨"rule", [], [⟨"area", [("fill", "#207020"), ("src", "wood")], []⟩,
    ⟨"symbol", [("src", "well")], []⟩, ⟨"caption", [("k", "name")], []⟩,
    ⟨"symbol", [("src", "inn")], []⟩, ⟨"circle", [("r", "3")], []⟩]⟩]⟩

def outingKeys : KeyTable := (KeyTable.tags {} [("name", "Oak")]).1

def outingTally (symbols : Nat) : Tally :=
  { paths := 1, circles := 1, pointLabels := 1, areaLabels := 1, symbols, missingImages := 1 }

theorem outing_parallel :
    let first := Images.ofNames ["wood", "inn"]
    let second := Images.ofNames ["inn", "well"]
    let dense : Settings := { ratio := 2.0 }
    outing.name = "rendertheme" ∧
      ∃ l m, ({} : Style).load outingKeys first {} outing = .ok l ∧
        ({} : Style).load outingKeys second dense outing = .ok m ∧
        Sheet.Parallel (outing.workshop outingKeys first {}) (outing.workshop outingKeys second dense)
          outing l.style.sheet m.style.sheet ∧
        l.tally = outingTally 1 ∧ m.tally = outingTally 2 := by
  intro first second dense
  have isTheme : outing.name = "rendertheme" := rfl
  obtain ⟨l, m, loaded, other, parallel, _⟩ :=
    presentation_parallel {} {} outingKeys first second {} 2.0 {} isTheme
  have other : ({} : Style).load outingKeys second dense outing = .ok m := other
  have sparse : (({} : Style).load outingKeys first {} outing).toOption.map (·.tally) =
      some (outingTally 1) := by decide +kernel
  have full : (({} : Style).load outingKeys second dense outing).toOption.map (·.tally) =
      some (outingTally 2) := by decide +kernel
  rw [loaded] at sparse
  rw [other] at full
  exact ⟨isTheme, l, m, loaded, other, parallel, Option.some.inj sparse, Option.some.inj full⟩

end Style
end MapTheme
