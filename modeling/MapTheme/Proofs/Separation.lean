import MapTheme.Proofs.Listing
import MapTheme.Report

/-! The report of a feature depends on the feature, the theme and the level alone. It
is read off the places of the theme and the tags as written, so that the numbers that
keys have, and whatever else has got one, are nowhere in it. -/
namespace MapTheme

/-- The elements that draw a line, an area or a circle, numbered by their position. -/
def Element.shapes (root : Element) (categories : List String) : List Place :=
  root.descendants.filter fun p =>
    p.reached categories && p.element.name ∈ ["area", "line", "circle"]

namespace Workshop
open Sheet

variable {α β : Type} (w : Workshop)

def shape (e : Element) : Drawing :=
  if e.name = "circle" then .circle (w.circle e) else .path (w.path e)

theorem drawn_shape (p : Place) :
    (w.drawnAt? p).filter (·.2.isShape) =
      if p.reached w.categories && p.element.name ∈ ["area", "line", "circle"] then
        some (w.selector p.trail, w.shape p.element)
      else none := by
  rw [drawnAt?]
  cases p.reached w.categories with
  | false => rfl
  | true =>
    generalize w.selector p.trail = s
    cases key : w.labelKey? p.element <;> cases icon : w.icon? p.element <;>
      fun_cases w.drawing? s p.element <;>
        simp_all [shape, path, Option.filter, Drawing.isShape, Drawing.priority?]

private theorem arranged_shapes (root : Element) :
    (arrange 0 (w.themeFindings root)).filter (·.drawing.isShape) =
      (root.shapes w.categories).zipIdx.map fun entry =>
        ⟨w.selector entry.1.trail, w.shape entry.1.element, entry.2⟩ := by
  have drawn : (root.descendants.filterMap w.drawnAt?).filter (·.2.isShape) =
      (root.shapes w.categories).map fun p => (w.selector p.trail, w.shape p.element) := by
    rw [List.filter_filterMap, Element.shapes, map_filter]
    exact congrArg (List.filterMap · _) (funext w.drawn_shape)
  rw [shapes_arrange, drawn_themeFindings, drawn, List.zipIdx_map, List.map_map]
  rfl

/-- What is made of the entries of shapes, read off the places of the theme and their
numbers. -/
theorem shape_places (root : Element) (generation : Nat) {pick : Drawing → Option α}
    (shapes : ∀ d x, pick d = some x → d.isShape = true) (make : Selector → Int → α → Option β) :
    (gather generation (fun _ => pick) (arrange 0 (w.themeFindings root))).filterMap
        (fun p => make p.selector p.order p.drawing) =
      (root.shapes w.categories).zipIdx.filterMap fun entry =>
        (pick (w.shape entry.1.element)).bind (make (w.selector entry.1.trail) entry.2) := by
  let told (i : Instruction) : Option β := (pick i.drawing).bind (make i.selector i.order)
  have only : (arrange 0 (w.themeFindings root)).filterMap told =
      ((arrange 0 (w.themeFindings root)).filter (·.drawing.isShape)).filterMap told := by
    rw [List.filterMap_filter]
    refine List.filterMap_congr fun i _ => ?_
    cases picked : pick i.drawing with
    | none => simp [told, picked]
    | some x => rw [if_pos (shapes _ _ picked)]
  rw [filterMap_gather]
  refine only.trans ?_
  rw [arranged_shapes, List.filterMap_map]
  rfl

def pathAt (zoom : Nat) (number : Int) (p : Path) : Drawn :=
  .path number p.area p.curve (p.pen zoom) p.brush (p.offsetAt zoom)

def circleAt (zoom : Nat) (number : Int) (c : Circle) : Drawn :=
  .circle number (c.radiusAt zoom) c.pen c.brush

def reportShape? (zoom : Nat) (kind : Kind) (number : Int) : Drawing → Option Drawn
  | .path p => if kind = .way then some (pathAt zoom number p) else none
  | .circle c => if kind = .node then some (circleAt zoom number c) else none
  | _ => none

/-- The text that an element draws for tags, with its priority. -/
def lettering (tags : List (String × String)) (e : Element) : Int × Drawn :=
  let l := w.label e 0
  let text := (e.get? "k").bind fun key => (tags.find? (·.1 = key)).map (·.2)
  (l.priority, .label l.priority (text.getD "") l.font l.fill l.stroke l.strokeWidth l.offset)

def letterings (root : Element) (subject : Subject) (here : Placement) : List (Int × Drawn) :=
  sortBy (·.1) (((root.openTo w.categories subject).filter fun p =>
    p.element.letters (fun p => p = here && p.suits subject.kind subject.closed) subject.tags).map
      fun p => w.lettering subject.tags p.element)

def signs (root : Element) (subject : Subject) : List (Int × Drawn) :=
  if Placement.caption.suits subject.kind subject.closed then
    sortBy (·.1) (((root.openTo w.categories subject).filter (·.element.name = "symbol")).filterMap
      fun p => (w.icon? p.element).map fun icon =>
        ((symbol p.element icon).priority, .symbol (symbol p.element icon)))
  else []

/-- The report of a feature that is described, read off the theme. -/
def reportOf (root : Element) (zoom : Nat) (d : Descriptor) : Report :=
  let subject : Subject := ⟨zoom, d.kind, d.closed, d.tags⟩
  let shapes := (root.shapes w.categories).zipIdx.filterMap fun entry =>
    if entry.1.admits subject then reportShape? zoom d.kind entry.2 (w.shape entry.1.element)
    else none
  let texts := sortBy (·.1)
    (w.letterings root subject .caption ++ w.letterings root subject .along)
  { id := d.id
    instructions :=
      shapes ++ texts.map (·.2) ++ (w.signs root subject).map (·.2) }

variable {w} {tags : List Tag} {pairs : List (String × String)}

private theorem picked_shapes (spelled : w.keys.Spells tags pairs) (root : Element)
    (generation zoom : Nat) (kind : Kind) (closed : Bool) {pick : Drawing → Option α}
    (shapes : ∀ d x, pick d = some x → d.isShape = true) (report : Int → α → Drawn)
    (told : ∀ number d, reportShape? zoom kind number d = (pick d).map (report number)) :
    ((gather generation (fun _ => pick) (arrange 0 (w.themeFindings root))).filter
        (·.selector.accepts zoom kind closed tags)).map (fun p => report p.order p.drawing) =
      (root.shapes w.categories).zipIdx.filterMap fun entry =>
        if entry.1.admits ⟨zoom, kind, closed, pairs⟩ then
          reportShape? zoom kind entry.2 (w.shape entry.1.element)
        else none := by
  let make (s : Selector) (number : Int) (x : α) : Option Drawn :=
    if s.accepts zoom kind closed tags then some (report number x) else none
  rw [map_filter]
  refine (shape_places w root generation shapes make).trans ?_
  refine congrArg (List.filterMap · _) (funext fun entry => ?_)
  have accepted : (w.selector entry.1.trail).accepts zoom kind closed tags =
      entry.1.admits ⟨zoom, kind, closed, pairs⟩ :=
    accepts_selector spelled entry.1.trail zoom kind closed
  rw [told, ← accepted]
  cases pick (w.shape entry.1.element) with
  | none => simp
  | some x => rfl

theorem shapes_reported (spelled : w.keys.Spells tags pairs) (root : Element)
    (generation zoom : Nat) (id : Option Json) (kind : Kind) (closed : Bool) :
    Report.shapes (.ofFindings generation (w.themeFindings root)) zoom ⟨id, kind, closed, tags⟩ =
      (root.shapes w.categories).zipIdx.filterMap fun entry =>
        if entry.1.admits ⟨zoom, kind, closed, pairs⟩ then
          reportShape? zoom kind entry.2 (w.shape entry.1.element)
        else none := by
  cases kind with
  | way =>
    have told (number : Int) (d : Drawing) :
        reportShape? zoom .way number d = d.path?.map (pathAt zoom number) := by
      cases d <;> rfl
    rw [← picked_shapes spelled root generation zoom .way closed isShape_path _ told,
      ← Style.paths_eq (Style.sheet_ofFindings _ _)]
    rfl
  | node =>
    have told (number : Int) (d : Drawing) :
        reportShape? zoom .node number d = d.circle?.map (circleAt zoom number) := by
      cases d <;> rfl
    rw [← picked_shapes spelled root generation zoom .node closed isShape_circle _ told,
      ← Style.circles_eq (Style.sheet_ofFindings _ _)]
    rfl

def labelOf (tags : List Tag) (l : Label) : Drawn :=
  .label l.priority (Report.labelText tags l) l.font l.fill l.stroke l.strokeWidth l.offset

private theorem lettering_label (spelled : w.keys.Spells tags pairs) {fits : Placement → Bool}
    {e : Element} (shown : e.letters fits pairs = true) :
    (w.labelKey? e).map (fun key => ((w.label e key).priority, labelOf tags (w.label e key))) =
      some (w.lettering pairs e) := by
  rw [Element.letters, Bool.and_eq_true] at shown
  obtain ⟨key, given, carried⟩ := Option.any_eq_true _ _ |>.mp shown.2
  obtain ⟨pair, member, same⟩ := List.any_eq_true.mp carried
  obtain ⟨id, numbered⟩ := spelled.known_of_mem member
  have same : pair.1 = key := by simpa using same
  rw [same] at numbered
  have text := spelled.find_value numbered
  simp only [labelKey?, given, Option.bind_some, numbered, Option.map_some, lettering]
  rw [← text]
  rfl

theorem texts_reported (spelled : w.keys.Spells tags pairs) (root : Element)
    (generation zoom : Nat) (kind : Kind) (closed : Bool) (here : Placement) :
    (sortBy (·.order) (Style.textScan generation (arrange 0 (w.themeFindings root)) zoom kind closed
        tags fun p => p = here && p.suits kind closed)).map
          (fun p => (p.drawing.priority, Report.ofLabel tags p)) =
      w.letterings root ⟨zoom, kind, closed, pairs⟩ here := by
  let fits : Placement → Bool := fun p => p = here && p.suits kind closed
  let make (l : Label) : Int × Drawn := (l.priority, labelOf tags l)
  have read := textScan_places spelled root generation zoom kind closed fits make
  have lettered : ((root.openTo w.categories ⟨zoom, kind, closed, pairs⟩).filter
      (·.element.letters fits pairs)).filterMap
        (fun p => (w.labelKey? p.element).map fun key => make (w.label p.element key)) =
      ((root.openTo w.categories ⟨zoom, kind, closed, pairs⟩).filter
        (·.element.letters fits pairs)).map fun p => w.lettering pairs p.element := by
    rw [← List.filterMap_eq_map']
    refine List.filterMap_congr fun p member => ?_
    exact lettering_label spelled (List.mem_filter.mp member).2
  rw [map_sortBy, letterings]
  · exact congrArg (sortBy _) (read.trans lettered)
  · intro p member
    exact (Style.textScan_priority member).symm

theorem labels_reported (spelled : w.keys.Spells tags pairs) (root : Element) (generation zoom : Nat)
    (kind : Kind) (closed : Bool) :
    ((.ofFindings generation (w.themeFindings root) : Style).labels zoom kind closed tags).map
        (Report.ofLabel tags) =
      (sortBy (·.1) (w.letterings root ⟨zoom, kind, closed, pairs⟩ .caption ++
        w.letterings root ⟨zoom, kind, closed, pairs⟩ .along)).map (·.2) := by
  let rated (p : Placed Label) : Int × Drawn := (p.drawing.priority, Report.ofLabel tags p)
  have parts : Report.ofLabel tags = Prod.snd ∘ rated := rfl
  rw [Style.labels_eq (Style.sheet_ofFindings _ _), parts, ← List.map_map, map_sortBy,
    List.map_append, texts_reported spelled, texts_reported spelled]
  intro p member
  rcases List.mem_append.mp member with inside | inside
  · exact (Style.textScan_priority (mem_sortBy.mp inside)).symm
  · exact (Style.textScan_priority (mem_sortBy.mp inside)).symm

theorem symbols_reported (spelled : w.keys.Spells tags pairs) (root : Element)
    (generation zoom : Nat) (kind : Kind) (closed : Bool) :
    ((.ofFindings generation (w.themeFindings root) : Style).symbols zoom kind closed tags).map
        Report.ofSymbol =
      (w.signs root ⟨zoom, kind, closed, pairs⟩).map (·.2) := by
  let rated (p : Placed Symbol) : Int × Drawn := (p.drawing.priority, Report.ofSymbol p)
  let make (s : Symbol) : Int × Drawn := (s.priority, .symbol s)
  have parts : Report.ofSymbol = Prod.snd ∘ rated := rfl
  have read := symbols_places spelled root generation zoom kind closed make
  rw [Style.symbols_eq (Style.sheet_ofFindings _ _), signs]
  split
  · rw [parts, ← List.map_map, map_sortBy]
    · exact congrArg (fun ps => (sortBy (·.1) ps).map (·.2)) read
    · intro p member
      exact (gather_priority (fun _ => Style.priority_symbol) (List.mem_filter.mp member).1).symm
  · rfl

private theorem reportOf_table (root : Element) (first second : Dictionary) (images : Images)
    (settings : Settings) (zoom : Nat) (d : Descriptor) :
    (root.workshop first images settings).reportOf root zoom d =
      (root.workshop second images settings).reportOf root zoom d := rfl

/-- A report is what is read off the theme, with no regard to any table. -/
theorem ofFeature_reported {d : Descriptor} (spelled : w.keys.Spells tags d.tags) (root : Element)
    (generation zoom : Nat) :
    Report.ofFeature (.ofFindings generation (w.themeFindings root)) zoom
        ⟨d.id, d.kind, d.closed, tags⟩ =
      w.reportOf root zoom d := by
  rw [Report.ofFeature, shapes_reported spelled, labels_reported spelled, symbols_reported spelled]
  rfl

end Workshop

theorem report_described {s : Style} {images : Images} {settings : Settings} {root : Element}
    {features : List Descriptor} {l : Loaded} {d : Descriptor} {i : Nat}
    (found : features[i]? = some d) (zoom : Nat)
    (style : l.style = .ofFindings (s.generation + 1)
      ((root.workshop (internFeatures {} features).1 images settings).themeFindings root)) :
    ∃ f, (internFeatures {} features).2[i]? = some f ∧
      Report.ofFeature l.style zoom f = (root.workshop {} images settings).reportOf root zoom d := by
  obtain ⟨tags, interned, spelled⟩ := internFeatures_spell {} features found
  refine ⟨_, interned, ?_⟩
  rw [style, Workshop.reportOf_table root {} (internFeatures {} features).1]
  exact Workshop.ofFeature_reported spelled root _ zoom

/-- Two runs that have a feature and the theme in common report the same of it. -/
theorem report_independent {a b : Style} {images : Images} {settings : Settings} {text : String}
    {first second : List Descriptor} {d : Descriptor} {i j : Nat} {l : Loaded}
    (inFirst : first[i]? = some d) (inSecond : second[j]? = some d)
    (loaded : a.loadText (internFeatures {} first).1 images settings text = .ok l) (zoom : Nat) :
    ∃ m f g, b.loadText (internFeatures {} second).1 images settings text = .ok m ∧
      (internFeatures {} first).2[i]? = some f ∧ (internFeatures {} second).2[j]? = some g ∧
      Report.ofFeature l.style zoom f = Report.ofFeature m.style zoom g := by
  obtain ⟨root, parsed, compiled⟩ := Style.loaded_text loaded
  obtain ⟨isTheme, style⟩ := Style.loaded_theme compiled
  obtain ⟨m, again, other⟩ := b.load_theme (internFeatures {} second).1 images settings isTheme
  obtain ⟨f, atFirst, told⟩ := report_described inFirst zoom style
  obtain ⟨g, atSecond, retold⟩ := report_described inSecond zoom other
  refine ⟨m, f, g, ?_, atFirst, atSecond, told.trans retold.symm⟩
  rw [Style.loadText, Style.reloadText, parsed]
  exact again

def benchTheme : String :=
  "<rendertheme><rule k='surface' v='~|paved'><caption k='name'/></rule></rendertheme>"

def bench : Descriptor := { kind := .node, tags := [("name", "Bench")] }

def yard : Descriptor := { kind := .node, tags := [("surface", "gravel")] }

/-- The key that is negated is known to the second run alone. -/
theorem bench_report :
    ∃ l m f g, ({} : Style).loadText (internFeatures {} [bench]).1 .none {} benchTheme = .ok l ∧
      ({} : Style).loadText (internFeatures {} [yard, bench]).1 .none {} benchTheme = .ok m ∧
      (internFeatures {} [bench]).2[0]? = some f ∧
      (internFeatures {} [yard, bench]).2[1]? = some g ∧
      Report.ofFeature l.style 10 f = Report.ofFeature m.style 10 g := by
  have inFirst : [bench][0]? = some bench := rfl
  have inSecond : [yard, bench][1]? = some bench := rfl
  have succeeds : (({} : Style).loadText (internFeatures {} [bench]).1 .none {} benchTheme).isOk := by
    decide +kernel
  cases loaded : ({} : Style).loadText (internFeatures {} [bench]).1 .none {} benchTheme with
  | error cause =>
    rw [loaded] at succeeds
    contradiction
  | ok l =>
    obtain ⟨m, f, g, rest⟩ := report_independent inFirst inSecond loaded 10
    exact ⟨l, m, f, g, rfl, rest⟩

end MapTheme
