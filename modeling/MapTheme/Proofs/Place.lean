import Mathlib.Data.List.Basic
import MapTheme.Proofs.Admission
import MapTheme.Sheet.Finding

/-! The elements of a document one after the other, each with the elements around it.
What a theme is compiled into is told by them alone: an element that stands in rules
all of which are enabled is drawn as its name and attributes say, with the selector
of these rules, and every other one is not drawn. -/
namespace MapTheme

/-- An element of a document. Its trail are the elements between the root and it, the
outermost first. -/
structure Place where
  trail : List Element
  element : Element

namespace Element

mutual
def places (trail : List Element) : Element → List Place
  | ⟨name, attributes, children⟩ =>
    ⟨trail, ⟨name, attributes, children⟩⟩ ::
      placesAll (trail ++ [⟨name, attributes, children⟩]) children

def placesAll (trail : List Element) : List Element → List Place
  | [] => []
  | e :: es => e.places trail ++ placesAll trail es
end

def descendants (root : Element) : List Place := placesAll [] root.children

end Element

mutual
theorem places_preorder (trail : List Element) : (e : Element) →
    (e.places trail).map (fun p => (p.trail.length, p.element.name, p.element.attributes)) =
      e.preorder trail.length
  | ⟨name, attributes, children⟩ => by
    have inside := placesAll_preorder (trail ++ [⟨name, attributes, children⟩]) children
    rw [List.length_append] at inside
    rw [Element.places, Element.preorder, List.map_cons, inside]
    rfl

theorem placesAll_preorder (trail : List Element) : (es : List Element) →
    (Element.placesAll trail es).map
        (fun p => (p.trail.length, p.element.name, p.element.attributes)) =
      Element.preorderAll trail.length es
  | [] => rfl
  | e :: es => by
    rw [Element.placesAll, Element.preorderAll, List.map_append, places_preorder trail e,
      placesAll_preorder trail es]
end

theorem descendants_preorder (root : Element) :
    root.descendants.map (fun p => (p.trail.length, p.element.name, p.element.attributes)) =
      Element.preorderAll 0 root.children :=
  placesAll_preorder [] root.children

mutual
theorem prefix_of_mem_places (trail : List Element) : (e : Element) →
    ∀ p ∈ e.places trail, trail <+: p.trail
  | ⟨name, attributes, children⟩, p, member => by
    rw [Element.places] at member
    rcases List.mem_cons.mp member with rfl | inside
    · exact List.prefix_refl _
    · exact (List.prefix_append _ _).trans (prefix_of_mem_placesAll _ children p inside)

/-- Around an element inside of others are those that are around them. -/
theorem prefix_of_mem_placesAll (trail : List Element) : (es : List Element) →
    ∀ p ∈ Element.placesAll trail es, trail <+: p.trail
  | [], p, member => by simp [Element.placesAll] at member
  | e :: es, p, member => by
    rw [Element.placesAll] at member
    rcases List.mem_append.mp member with here | later
    · exact prefix_of_mem_places trail e p here
    · exact prefix_of_mem_placesAll trail es p later
end

/-- Whether an element is a rule of no category that is not enabled. -/
def Element.opens (categories : List String) (e : Element) : Bool :=
  e.name = "rule" && (e.get? "cat").all (· ∈ categories)

namespace Place

def ruled (categories : List String) (p : Place) : Bool := p.trail.all (·.opens categories)

/-- Whether an element stands in rules that are enabled. The root is no rule. -/
def reached (categories : List String) (p : Place) : Bool :=
  !p.trail.isEmpty && p.ruled categories

def admits (p : Place) (s : Subject) : Bool := s.zoom ≤ maxZoom && p.trail.all (·.admits s)

end Place

def Finding.drawn? : Finding → Option (Selector × Drawing)
  | .drawn selector drawing => some (selector, drawing)
  | _ => none

namespace Workshop

/-- What an element in a rule draws. A caption in rules that contradict each other on
the kind of feature is not drawn. -/
def drawing? (w : Workshop) (s : Selector) (e : Element) : Option Drawing :=
  match e.name with
  | "area" => some (.path (w.area e))
  | "line" => some (.path (w.line e))
  | "circle" => some (.circle (w.circle e))
  | "pathText" => (w.labelKey? e).map fun key => .label .along (w.label e key)
  | "caption" =>
    if s.geometry = .never then none
    else (w.labelKey? e).map fun key => .label .caption (w.label e key)
  | "symbol" => (w.icon? e).map fun icon => .symbol (symbol e icon)
  | _ => none

def drawnAt? (w : Workshop) (p : Place) : Option (Selector × Drawing) :=
  if p.reached w.categories then
    (w.drawing? (w.selector p.trail) p.element).map (w.selector p.trail, ·)
  else none

variable (w : Workshop)

private theorem drawn_notices (ns : List Notice) : (notices ns).filterMap Finding.drawn? = [] := by
  rw [List.filterMap_eq_nil_iff]
  intro finding member
  obtain ⟨n, _, rfl⟩ := List.mem_map.mp member
  rfl

private theorem drawn_label (s : Selector) (placement : Placement) (e : Element) :
    (w.labelFindings s placement e).filterMap Finding.drawn? =
      (if placement = .caption ∧ s.geometry = .never then none
        else (w.labelKey? e).map fun key => (s, Drawing.label placement (w.label e key))).toList := by
  rw [labelFindings]
  cases w.labelKey? e with
  | none => simp [Finding.drawn?]
  | some key =>
    simp only [List.filterMap_append, drawn_notices, List.nil_append]
    split <;> rfl

private theorem drawn_symbol (s : Selector) (e : Element) :
    (w.symbolFindings s e).filterMap Finding.drawn? =
      ((w.icon? e).map fun icon => (s, Drawing.symbol (symbol e icon))).toList := by
  rw [symbolFindings, List.filterMap_append, drawn_notices]
  cases w.icon? e with
  | none => rfl
  | some icon => simp [drawn_notices, Finding.drawn?]

private theorem drawn_instruction (s : Selector) (e : Element) :
    (w.instructionFindings s e).filterMap Finding.drawn? =
      ((w.drawing? s e).map (s, ·)).toList := by
  rw [instructionFindings]
  split
  · next named => simp [drawing?, named, drawn_notices, Finding.drawn?]
  · next named => simp [drawing?, named, drawn_notices, Finding.drawn?]
  · next named => simp [drawing?, named, drawn_notices, Finding.drawn?]
  · next named => simp [drawing?, named, drawn_label, Function.comp_def]
  · next named =>
    simp only [drawing?, named, drawn_label]
    split <;> simp_all [Function.comp_def]
  · next named => simp [drawing?, named, drawn_symbol, Function.comp_def]
  · next named => simp_all [drawing?, Finding.drawn?]

private theorem selector_append (trail : List Element) (e : Element) :
    w.selector (trail ++ [e]) = (w.selector trail).refine (w.declared e) := by
  rw [selector, List.foldl_append]
  rfl

theorem opens_rule {e : Element} (isRule : e.name = "rule") :
    e.opens w.categories = w.enables e := by
  simp [Element.opens, enables, isRule]

/-- What the element at a place comes to by itself, without the elements in it. Where it stands
in anything but enabled rules it comes to nothing. -/
def ownFindings (p : Place) : List Finding :=
  if p.ruled w.categories then
    if p.element.name = "rule" then
      if w.enables p.element then notices (w.ruleComplaints p.element)
      else [.notice (.disabledCategory ((p.element.get? "cat").getD ""))]
    else if p.trail.isEmpty then w.topFindings p.element
    else w.instructionFindings (w.selector p.trail) p.element
  else []

variable {p : Place}

theorem ownFindings_unruled (unruled : p.ruled w.categories = false) : w.ownFindings p = [] := by
  simp [ownFindings, unruled]

theorem ownFindings_rule (ruled : p.ruled w.categories = true) (isRule : p.element.name = "rule") :
    w.ownFindings p =
      if w.enables p.element then notices (w.ruleComplaints p.element)
      else [.notice (.disabledCategory ((p.element.get? "cat").getD ""))] := by
  rw [ownFindings, if_pos ruled, if_pos isRule]

theorem ownFindings_top (top : p.trail = []) (isNoRule : p.element.name ≠ "rule") :
    w.ownFindings p = w.topFindings p.element := by
  simp [ownFindings, Place.ruled, top, isNoRule]

theorem ownFindings_inside (reached : p.reached w.categories = true)
    (isNoRule : p.element.name ≠ "rule") :
    w.ownFindings p = w.instructionFindings (w.selector p.trail) p.element := by
  rw [Place.reached, Bool.and_eq_true, Bool.not_eq_true'] at reached
  simp [ownFindings, reached.1, reached.2, isNoRule]

private theorem silent_placesAll {trail : List Element}
    (shut : trail.all (·.opens w.categories) = false)
    (es : List Element) : (Element.placesAll trail es).flatMap w.ownFindings = [] := by
  rw [List.flatMap_eq_nil_iff]
  intro p member
  obtain ⟨rest, whole⟩ := prefix_of_mem_placesAll trail es p member
  refine w.ownFindings_unruled ?_
  rw [Place.ruled, ← whole, List.all_append, shut, Bool.false_and]

mutual
/-- An element in enabled rules, walked with their selector, comes to what is found at its own
place and at the places inside of it. So does a rule at the top. -/
theorem findings_places (trail : List Element)
    (ruled : trail.all (·.opens w.categories) = true) :
    (e : Element) → (trail ≠ [] ∨ e.name = "rule") →
      w.findings (w.selector trail) e = (e.places trail).flatMap w.ownFindings
  | ⟨name, attributes, children⟩, standing => by
    let e : Element := ⟨name, attributes, children⟩
    have deeper : (trail ++ [e]).all (·.opens w.categories) = e.opens w.categories := by
      simp [ruled]
    have here : Place.ruled w.categories ⟨trail, e⟩ = true := ruled
    rw [Element.places, List.flatMap_cons]
    by_cases isRule : name = "rule"
    · rw [w.findings_rule (w.selector trail) (e := e) isRule, w.ownFindings_rule here isRule]
      by_cases enabled : w.enables e
      · have opened : (trail ++ [e]).all (·.opens w.categories) = true := by
          rw [deeper, w.opens_rule isRule, enabled]
        rw [if_pos enabled, if_pos enabled, ← selector_append,
          findingsAll_places _ opened (by simp) children]
      · have shut : (trail ++ [e]).all (·.opens w.categories) = false := by
          rw [deeper, w.opens_rule isRule, Bool.eq_false_iff]
          exact enabled
        rw [if_neg enabled, if_neg enabled, w.silent_placesAll shut children, List.append_nil]
    · -- Right below the root only rules are walked, so this is inside of one.
      have inside : trail ≠ [] := standing.resolve_right isRule
      have reached : Place.reached w.categories ⟨trail, e⟩ = true := by
        simp [Place.reached, inside, here]
      have shut : (trail ++ [e]).all (·.opens w.categories) = false := by
        rw [deeper]
        simp [Element.opens, e, isRule]
      rw [w.findings_other (w.selector trail) (e := e) isRule, w.ownFindings_inside reached isRule,
        w.silent_placesAll shut children, List.append_nil]

private theorem findingsAll_places (trail : List Element)
    (ruled : trail.all (·.opens w.categories) = true) (inside : trail ≠ []) :
    (es : List Element) →
      w.findingsAll (w.selector trail) es = (Element.placesAll trail es).flatMap w.ownFindings
  | [] => rfl
  | e :: es => by
    rw [findingsAll, Element.placesAll, List.flatMap_append,
      findings_places trail ruled e (.inl inside), findingsAll_places trail ruled inside es]
end

private theorem topFindings_places (e : Element) :
    w.topFindings e = (e.places []).flatMap w.ownFindings := by
  by_cases isRule : e.name = "rule"
  · have walked : w.topFindings e = w.findings {} e := by simp only [topFindings, isRule]
    rw [walked]
    exact w.findings_places [] rfl e (.inr isRule)
  · obtain ⟨name, attributes, children⟩ := e
    let e : Element := ⟨name, attributes, children⟩
    have shut : [e].all (·.opens w.categories) = false := by
      simp [Element.opens, e, isRule]
    have own : w.ownFindings ⟨[], e⟩ = w.topFindings e := w.ownFindings_top rfl isRule
    rw [Element.places, List.flatMap_cons, List.nil_append, w.silent_placesAll shut children,
      List.append_nil, own]

/-- A theme comes to what is found at its places, in document order. -/
theorem themeFindings_places (root : Element) :
    w.themeFindings root = root.descendants.flatMap w.ownFindings := by
  rw [themeFindings, Element.descendants]
  induction root.children with
  | nil => rfl
  | cons e es ih =>
    rw [List.flatMap_cons, Element.placesAll, List.flatMap_append, ← topFindings_places, ih]

private theorem drawn_ownFindings (p : Place) :
    (w.ownFindings p).filterMap Finding.drawn? = (w.drawnAt? p).toList := by
  cases ruled : p.ruled w.categories with
  | false => simp [w.ownFindings_unruled ruled, drawnAt?, Place.reached, ruled]
  | true =>
    by_cases isRule : p.element.name = "rule"
    · have undrawn : w.drawnAt? p = none := by simp [drawnAt?, drawing?, isRule]
      rw [w.ownFindings_rule ruled isRule, undrawn]
      split
      · exact drawn_notices _
      · rfl
    · by_cases top : p.trail = []
      · have undrawn : w.drawnAt? p = none := by simp [drawnAt?, Place.reached, top]
        rw [w.ownFindings_top top isRule, undrawn, topFindings]
        split
        · contradiction
        · rfl
        · rfl
      · have reached : p.reached w.categories = true := by simp [Place.reached, top, ruled]
        rw [w.ownFindings_inside reached isRule, drawn_instruction, drawnAt?, if_pos reached]

/-- What is drawn of a theme is drawn at its places, in document order. -/
theorem drawn_themeFindings (root : Element) :
    (w.themeFindings root).filterMap Finding.drawn? = root.descendants.filterMap w.drawnAt? := by
  rw [themeFindings_places, List.filterMap_flatMap, List.filterMap_eq_flatMap_toList]
  exact congrArg (List.flatMap · _) (funext w.drawn_ownFindings)

end Workshop
end MapTheme
