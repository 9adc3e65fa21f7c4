import MapTheme.Proofs.Counting
import MapTheme.Proofs.Demands

/-! What a theme can do without. A theme that is rid of every attribute that nothing is read
from, and of every element in a place where it is passed over, is drawn and counted as the
theme itself. -/
namespace MapTheme

namespace Element

def ruleContents : List String :=
  ["rule", "area", "line", "circle", "pathText", "caption", "symbol"]

mutual
/-- An element in a rule without what is passed over in it. -/
def clean : Element → Element
  | ⟨name, attributes, children⟩ =>
    ⟨name, attributes.filter (usable name), if name = "rule" then cleanAll children else []⟩

def cleanAll : List Element → List Element
  | [] => []
  | e :: es => if e.name ∈ ruleContents then e.clean :: cleanAll es else cleanAll es
end

private theorem clean_name (e : Element) : e.clean.name = e.name := by
  obtain ⟨name, attributes, children⟩ := e
  rw [clean]

private theorem clean_attributes (e : Element) :
    e.clean.attributes = e.attributes.filter (usable e.name) := by
  obtain ⟨name, attributes, children⟩ := e
  rw [clean]

private theorem clean_children (e : Element) :
    e.clean.children = if e.name = "rule" then cleanAll e.children else [] := by
  obtain ⟨name, attributes, children⟩ := e
  rw [clean]

def cleanTop? (e : Element) : Option Element :=
  if e.name = "rule" then some e.clean else if e.name = "stylemenu" then some e else none

/-- A theme without what is passed over in it. -/
def cleanTheme (root : Element) : Element :=
  { root with children := root.children.filterMap cleanTop? }

/-- Whether no two attributes of an element have one name. -/
def Distinct (e : Element) : Prop := (e.attributes.map Prod.fst).Nodup

instance (e : Element) : Decidable e.Distinct :=
  inferInstanceAs (Decidable (e.attributes.map Prod.fst).Nodup)

private theorem lookup_filter (keep : String × String → Bool) {attributes : List (String × String)}
    (distinct : (attributes.map Prod.fst).Nodup) (name : String) :
    (attributes.filter keep).lookup name =
      (attributes.lookup name).filter fun value => keep (name, value) := by
  induction attributes with
  | nil => rfl
  | cons pair rest ih =>
    obtain ⟨first, value⟩ := pair
    obtain ⟨fresh, others⟩ := List.nodup_cons.mp distinct
    have tail := ih others
    by_cases same : name = first
    · subst same
      have absent : rest.lookup name = none := by
        rw [List.lookup_eq_none_iff]
        intro pair member
        have differs : name ≠ pair.1 := fun equal =>
          fresh (List.mem_map.mpr ⟨pair, member, equal.symm⟩)
        simpa using differs
      rw [absent] at tail
      cases kept : keep (name, value) <;> simp [kept, tail, Option.filter]
    · have other : (name == first) = false := by simpa using same
      rw [List.filter_cons, List.lookup_cons, other]
      cases keep (first, value) with
      | false => exact tail
      | true => simpa [List.lookup_cons, other] using tail

private theorem agrees_clean {e : Element} (distinct : e.Distinct) :
    Agrees (demands e.name) e.clean e := by
  intro demand member
  have given : e.clean.get? demand.1 =
      (e.get? demand.1).filter fun value => usable e.name (demand.1, value) := by
    rw [get?, clean_attributes]
    exact lookup_filter (usable e.name) distinct demand.1
  have wanted (value : String) (taken : demand.2 value = true) :
      usable e.name (demand.1, value) = true := by
    rw [usable, List.any_eq_true]
    exact ⟨demand, member, by simp [taken]⟩
  rw [given, Option.filter_filter]
  cases e.get? demand.1 with
  | none => rfl
  | some value =>
    cases taken : demand.2 value with
    | false => simp [Option.filter, taken]
    | true => simp [Option.filter, taken, wanted value taken]

end Element

namespace Workshop
open Element

variable (w : Workshop) {e f : Element}

private theorem areaComplaints_agrees (same : Agrees areaDemands e f) :
    (w.areaComplaints e).filter Notice.counted = (w.areaComplaints f).filter Notice.counted := by
  have source : e.get? "src" = f.get? "src" := same.get? (by simp [areaDemands, iconDemands])
  have icon : w.icon? e = w.icon? f := w.icon_agrees (same.mono (List.subset_append_right _ _))
  rw [counted_area, counted_area, source, icon]

private theorem labelFindings_agrees (s : Selector) (placement : Placement)
    (named : e.name = f.name) (same : Agrees labelDemands e f) :
    (w.labelFindings s placement e).filter Finding.counted =
      (w.labelFindings s placement f).filter Finding.counted := by
  have key : e.get? "k" = f.get? "k" := same.get? (by simp [labelDemands])
  rw [counted_labelFindings, counted_labelFindings, w.labelKey_agrees same, w.label_agrees same,
    named, key]

private theorem symbolFindings_agrees (s : Selector) (same : Agrees (demands "symbol") e f) :
    (w.symbolFindings s e).filter Finding.counted =
      (w.symbolFindings s f).filter Finding.counted := by
  have source : e.get? "src" = f.get? "src" := same.get? (by simp [demands, iconDemands])
  have icon : w.icon? e = w.icon? f := w.icon_agrees (same.mono (List.subset_cons_self _ _))
  have priority : e.read? "priority" Value.whole? = f.read? "priority" Value.whole? :=
    same.read? (by simp [demands])
  rw [counted_symbolFindings, counted_symbolFindings, icon, source]
  simp only [symbol, priority]

/-- What an element comes to depends on the attributes that it is asked for, as far as it is
counted. -/
theorem instructionFindings_agrees (s : Selector) (named : e.name = f.name)
    (same : Agrees (demands e.name) e f) :
    (w.instructionFindings s e).filter Finding.counted =
      (w.instructionFindings s f).filter Finding.counted := by
  unfold instructionFindings
  rw [← named]
  split
  · next isArea =>
    rw [isArea] at same
    simp only [List.filter_append, counted_notices, w.areaComplaints_agrees same,
      w.area_agrees same]
  · next isLine =>
    rw [isLine] at same
    simp only [List.filter_append, counted_notices, counted_line, w.line_agrees same]
  · next isCircle =>
    rw [isCircle] at same
    simp only [List.filter_append, counted_notices, counted_circle, w.circle_agrees same]
  · next isText =>
    rw [isText] at same
    exact w.labelFindings_agrees s .along named same
  · next isCaption =>
    rw [isCaption] at same
    exact w.labelFindings_agrees s .caption named same
  · next isSymbol =>
    rw [isSymbol] at same
    exact w.symbolFindings_agrees s same
  · rfl

private theorem counted_foreign (s : Selector) (foreign : e.name ∉ ruleContents) :
    (w.findings s e).filter Finding.counted = [] := by
  have isNoRule : e.name ≠ "rule" := by
    intro isRule
    exact foreign (by simp [ruleContents, isRule])
  rw [w.findings_other s isNoRule, instructionFindings]
  split <;> first | rfl | simp_all [ruleContents]

mutual
theorem counted_clean (trail : List Element) (s : Selector) : (e : Element) →
    (∀ p ∈ e.places trail, p.element.Distinct) →
      (w.findings s e.clean).filter Finding.counted = (w.findings s e).filter Finding.counted
  | ⟨name, attributes, children⟩, distinct => by
    let e : Element := ⟨name, attributes, children⟩
    rw [places] at distinct
    obtain ⟨own, inside⟩ := List.forall_mem_cons.mp distinct
    have same : Agrees (demands name) e.clean e := agrees_clean own
    -- Only a rule keeps children; those of any other element are never walked.
    by_cases isRule : name = "rule"
    · subst isRule
      have kept : e.clean.children = cleanAll children := by rw [clean_children, if_pos rfl]
      have tail := counted_cleanAll (trail ++ [e]) (s.refine (w.declared e)) children inside
      have category : e.clean.get? "cat" = e.get? "cat" := same.get? (by simp [demands, ruleDemands])
      rw [w.findings_rule s (clean_name e), w.findings_rule s (e := e) rfl, w.enables_agrees same,
        w.declared_agrees same, kept, category]
      split
      · simp only [List.filter_append, counted_notices, counted_rule, tail, e]
      · rfl
    · have other : e.clean.name ≠ "rule" := by rwa [clean_name]
      rw [w.findings_other s other, w.findings_other s (e := e) isRule]
      exact w.instructionFindings_agrees s (clean_name e) (by rwa [clean_name])

private theorem counted_cleanAll (trail : List Element) (s : Selector) : (es : List Element) →
    (∀ p ∈ placesAll trail es, p.element.Distinct) →
      (w.findingsAll s (cleanAll es)).filter Finding.counted =
        (w.findingsAll s es).filter Finding.counted
  | [], _ => rfl
  | e :: es, distinct => by
    rw [placesAll] at distinct
    obtain ⟨first, rest⟩ := List.forall_mem_append.mp distinct
    have tail := counted_cleanAll trail s es rest
    rw [cleanAll, findingsAll, List.filter_append, ← tail]
    split
    · rw [findingsAll, List.filter_append, counted_clean trail s e first]
    · next foreign => rw [w.counted_foreign s foreign, List.nil_append]
end

private theorem counted_top (distinct : ∀ p ∈ e.places [], p.element.Distinct) :
    ((cleanTop? e).toList.flatMap w.topFindings).filter Finding.counted =
      (w.topFindings e).filter Finding.counted := by
  rw [cleanTop?]
  by_cases isRule : e.name = "rule"
  · have named : e.clean.name = "rule" := by rw [clean_name, isRule]
    have walked {e : Element} (isRule : e.name = "rule") : w.topFindings e = w.findings {} e := by
      simp only [topFindings, isRule]
    have cleaned := w.counted_clean [] {} e distinct
    simp only [if_pos isRule, Option.toList_some, List.flatMap_singleton, walked named, walked isRule,
      cleaned]
  · rw [if_neg isRule]
    by_cases isMenu : e.name = "stylemenu"
    · rw [if_pos isMenu, Option.toList_some, List.flatMap_singleton]
    · rw [if_neg isMenu, topFindings]
      split
      · contradiction
      · contradiction
      · rfl

theorem counted_theme {root : Element} (distinct : ∀ p ∈ root.descendants, p.element.Distinct) :
    (w.themeFindings root.cleanTheme).filter Finding.counted =
      (w.themeFindings root).filter Finding.counted := by
  rw [themeFindings, themeFindings, cleanTheme]
  rw [descendants] at distinct
  generalize root.children = es at distinct ⊢
  induction es with
  | nil => rfl
  | cons e es ih =>
    rw [placesAll] at distinct
    obtain ⟨first, rest⟩ := List.forall_mem_append.mp distinct
    have split : (e :: es).filterMap cleanTop? = (cleanTop? e).toList ++ es.filterMap cleanTop? := by
      rw [List.filterMap_cons]
      cases cleanTop? e <;> rfl
    rw [split, List.flatMap_append, List.filter_append, w.counted_top first, ih rest,
      List.flatMap_cons, List.filter_append]

end Workshop

theorem Element.menu_clean (root : Element) : root.cleanTheme.menu? = root.menu? := by
  have kept : (fun e => (cleanTop? e).any (·.name = "stylemenu")) =
      fun e : Element => decide (e.name = "stylemenu") := by
    funext e
    rw [cleanTop?]
    split
    · next isRule => simp [clean_name, isRule]
    · split <;> simp_all
  rw [menu?, menu?, cleanTheme, List.find?_filterMap, kept]
  cases found : root.children.find? (·.name = "stylemenu") with
  | none => rfl
  | some menu =>
    have named : menu.name = "stylemenu" := by simpa using List.find?_some found
    simp [cleanTop?, named]

namespace Style

/-- A theme is loaded as it would be without all that is passed over in it. -/
theorem load_clean (s : Style) (keys : Dictionary) (images : Images) (settings : Settings)
    {root : Element} (isTheme : root.name = "rendertheme")
    (distinct : ∀ p ∈ root.descendants, p.element.Distinct) :
    ∃ l m, s.load keys images settings root = .ok l ∧
      s.load keys images settings root.cleanTheme = .ok m ∧
      l.style = m.style ∧ l.tally = m.tally := by
  have stillTheme : root.cleanTheme.name = "rendertheme" := isTheme
  have workshop : root.cleanTheme.workshop keys images settings = root.workshop keys images settings := by
    simp only [Element.workshop, Element.categories, Element.menu_clean]
  obtain ⟨l, loaded, style, tally⟩ := s.load_tally keys images settings isTheme
  obtain ⟨m, cleaned, otherStyle, otherTally⟩ := s.load_tally keys images settings stillTheme
  have counted := (root.workshop keys images settings).counted_theme distinct
  have same : l.style = m.style := by
    have arranged : arrange 0 ((root.workshop keys images settings).themeFindings root) =
        arrange 0 ((root.workshop keys images settings).themeFindings root.cleanTheme) := by
      rw [← arrange_counted, ← counted, arrange_counted]
    rw [style, otherStyle, workshop, ofFindings, ofFindings, Sheet.ofFindings, Sheet.ofFindings,
      arranged]
  refine ⟨l, m, loaded, cleaned, same, ?_⟩
  rw [tally, otherTally, same, workshop, ← tally_counted, ← counted, tally_counted]

/-- A rule whose zoom level is no number, and a line in it with a color and a child that are
passed over. -/
def untidy : Element :=
  ⟨"rendertheme", [("version", "1")], [⟨"legend", [], []⟩,
    ⟨"rule", [("e", "way"), ("zoom-min", "far"), ("note", "roads")],
      [⟨"line", [("stroke", "red"), ("stroke-width", "2")], [⟨"line", [], []⟩]⟩,
        ⟨"hatch", [], []⟩]⟩]⟩

def tidy : Element :=
  ⟨"rendertheme", [("version", "1")], [⟨"rule", [("e", "way")],
    [⟨"line", [("stroke-width", "2")], []⟩]⟩]⟩

theorem untidy_loaded :
    untidy.name = "rendertheme" ∧ (∀ p ∈ untidy.descendants, p.element.Distinct) ∧
      untidy.cleanTheme = tidy ∧
      ∃ l m, ({} : Style).load {} .none {} untidy = .ok l ∧
        ({} : Style).load {} .none {} untidy.cleanTheme = .ok m ∧
        l.style = m.style ∧ l.tally = m.tally ∧ l.tally = { paths := 1 } := by
  have isTheme : untidy.name = "rendertheme" := rfl
  have distinct : ∀ p ∈ untidy.descendants, p.element.Distinct := by decide +kernel
  obtain ⟨l, m, loaded, cleaned, style, tally⟩ := load_clean {} {} .none {} isTheme distinct
  have counts : (({} : Style).load {} .none {} untidy).toOption.map (·.tally) = some { paths := 1 } := by
    decide +kernel
  rw [loaded] at counts
  exact ⟨isTheme, distinct, rfl, l, m, loaded, cleaned, style, tally,
    Option.some.inj counts⟩

end Style
end MapTheme
