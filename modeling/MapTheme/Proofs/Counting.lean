import MapTheme.Proofs.Arrangement

/-! What the tally of a load is made from: the findings of what is drawn, left out or not
found. Complaints about attributes are not among them. -/
namespace MapTheme

/-- Whether a notice is of something that a tally counts. -/
def Notice.counted : Notice → Bool
  | .disabledCategory _ | .patternNotFound _ | .symbolNotFound _ | .unknownLabelKey .. => true
  | _ => false

def Finding.counted : Finding → Bool
  | .notice n => n.counted
  | _ => true

theorem arrange_counted (next : Nat) (findings : List Finding) :
    arrange next (findings.filter Finding.counted) = arrange next findings := by
  have drawn (f : Finding) :
      (if f.counted = true then f.drawn? else none) = f.drawn? := by
    cases f with
    | notice n =>
      split
      · rfl
      · rfl
    | unplaceable => rfl
    | drawn selector drawing => rfl
  rw [arrange_drawn, List.filterMap_filter, funext drawn, ← arrange_drawn]

theorem countP_kept {p keep : Finding → Bool} (kept : ∀ f, p f = true → keep f = true)
    (findings : List Finding) : (findings.filter keep).countP p = findings.countP p := by
  rw [List.countP_filter]
  refine List.countP_congr fun f _ => ?_
  simpa using kept f

theorem counted_of_isPruned (f : Finding) (counts : f.isPruned = true) : f.counted = true := by
  revert counts
  fun_cases Finding.isPruned f <;> simp [Finding.counted, Notice.counted]

theorem counted_of_isMissingImage (f : Finding) (counts : f.isMissingImage = true) :
    f.counted = true := by
  revert counts
  fun_cases Finding.isMissingImage f <;> simp [Finding.counted, Notice.counted]

theorem counted_of_isSkipped (f : Finding) (counts : f.isSkipped = true) : f.counted = true := by
  revert counts
  fun_cases Finding.isSkipped f <;> simp [Finding.counted, Notice.counted]

theorem tally_counted (s : Sheet) (findings : List Finding) :
    s.tally (findings.filter Finding.counted) = s.tally findings := by
  simp only [Sheet.tally, countP_kept counted_of_isPruned, countP_kept counted_of_isMissingImage,
    countP_kept counted_of_isSkipped]

namespace Workshop

variable (w : Workshop)

theorem counted_notices (ns : List Notice) :
    (notices ns).filter Finding.counted = notices (ns.filter Notice.counted) := by
  rw [notices, notices, List.filter_map]
  rfl

@[simp] theorem counted_complaint {α : Type} (e : Element) (name : String)
    (read : String → Option α) : (e.complaint name read).filter Notice.counted = [] := by
  rw [Element.complaint]
  split
  · rfl
  · split <;> rfl

@[simp] theorem counted_search (e : Element) : (w.searchNotices e).filter Notice.counted = [] := by
  rw [searchNotices]
  cases e.get? "src" with
  | none => rfl
  | some source =>
    rw [Option.elim_some, Images.notices]
    split <;> rfl

@[simp] theorem counted_icon (e : Element) : (iconComplaints e).filter Notice.counted = [] := by
  simp [iconComplaints]

theorem counted_rule (e : Element) : (w.ruleComplaints e).filter Notice.counted = [] := by
  have unknown (keys : List String) :
      (keys.map Notice.unknownFilterKey).filter Notice.counted = [] := by
    simp [Notice.counted]
  rw [ruleComplaints]
  split <;> simp [unknown]

theorem counted_area (e : Element) :
    (w.areaComplaints e).filter Notice.counted =
      match e.get? "src", w.icon? e with
      | some source, none => [.patternNotFound source]
      | _, _ => [] := by
  simp only [areaComplaints, List.filter_append, counted_complaint, counted_search, List.nil_append]
  cases e.get? "src" with
  | none => rfl
  | some source =>
    cases w.icon? e with
    | none => rfl
    | some icon => exact counted_icon e

theorem counted_line (e : Element) : (lineComplaints e).filter Notice.counted = [] := by
  simp [lineComplaints]

theorem counted_circle (e : Element) : (circleComplaints e).filter Notice.counted = [] := by
  rw [circleComplaints]
  split <;> simp

private theorem counted_label (e : Element) : (labelComplaints e).filter Notice.counted = [] := by
  simp [labelComplaints]

private theorem counted_symbol (e : Element) : (symbolComplaints e).filter Notice.counted = [] := by
  simp [symbolComplaints]

/-- Whether the image that an element names is found. -/
def finds (w : Workshop) (e : Element) : Bool := ((e.get? "src").bind w.images.locate).isSome

theorem icon_isSome (e : Element) : (w.icon? e).isSome = w.finds e := Option.isSome_map

/-- What is counted of an instruction beside what it draws: that its image is not found, or
that no feature can show it. -/
def lack? (s : Selector) (e : Element) : Option Finding :=
  match e.name with
  | "area" =>
    if e.has "src" && !w.finds e then some (.notice (.patternNotFound ((e.get? "src").getD "")))
    else none
  | "pathText" | "caption" =>
    if (w.labelKey? e).isNone then some (.notice (.unknownLabelKey e.name ((e.get? "k").getD "")))
    else if e.name = "caption" ∧ s.geometry = .never then some .unplaceable
    else none
  | "symbol" =>
    if w.finds e then none else some (.notice (.symbolNotFound ((e.get? "src").getD "")))
  | _ => none

private theorem counted_drawn {ns : List Notice} (quiet : ns.filter Notice.counted = [])
    (s : Selector)
    (d : Drawing) : (notices ns ++ [Finding.drawn s d]).filter Finding.counted = [.drawn s d] := by
  rw [List.filter_append, counted_notices, quiet]
  rfl

private theorem counted_pattern (s : Selector) (e : Element) (d : Drawing) :
    (notices (w.areaComplaints e) ++ [Finding.drawn s d]).filter Finding.counted =
      (if e.has "src" && !w.finds e then
        some (Finding.notice (.patternNotFound ((e.get? "src").getD ""))) else none).toList ++
        [.drawn s d] := by
  rw [List.filter_append, counted_notices, counted_area, ← icon_isSome, Element.has]
  cases e.get? "src" with
  | none => rfl
  | some source => cases w.icon? e <;> rfl

theorem counted_labelFindings (s : Selector) (placement : Placement) (e : Element) :
    (w.labelFindings s placement e).filter Finding.counted =
      match w.labelKey? e with
      | none => [.notice (.unknownLabelKey e.name ((e.get? "k").getD ""))]
      | some key =>
        if placement = .caption ∧ s.geometry = .never then [.unplaceable]
        else [.drawn s (.label placement (w.label e key))] := by
  rw [labelFindings]
  cases w.labelKey? e with
  | none => rfl
  | some key =>
    dsimp only
    rw [List.filter_append, counted_notices, counted_label]
    split <;> rfl

theorem counted_symbolFindings (s : Selector) (e : Element) :
    (w.symbolFindings s e).filter Finding.counted =
      match w.icon? e with
      | none => [.notice (.symbolNotFound ((e.get? "src").getD ""))]
      | some icon => [.drawn s (.symbol (symbol e icon))] := by
  rw [symbolFindings, List.filter_append, counted_notices, counted_search]
  cases w.icon? e with
  | none => rfl
  | some icon => exact counted_drawn (counted_symbol e) s _

/-- An instruction is counted for what it draws and for what it lacks, and each at most once. -/
theorem counted_instruction (s : Selector) (e : Element) :
    (w.instructionFindings s e).filter Finding.counted =
      (w.lack? s e).toList ++ ((w.drawing? s e).map (.drawn s)).toList := by
  rw [instructionFindings]
  split
  · next named =>
    simp only [lack?, drawing?, named]
    exact w.counted_pattern s e _
  · next named =>
    simp only [lack?, drawing?, named]
    exact counted_drawn (counted_line e) s _
  · next named =>
    simp only [lack?, drawing?, named]
    exact counted_drawn (counted_circle e) s _
  · next named =>
    simp only [lack?, drawing?, named, counted_labelFindings]
    cases w.labelKey? e <;> rfl
  · next named =>
    simp only [lack?, drawing?, named, counted_labelFindings]
    by_cases never : s.geometry = .never <;> cases w.labelKey? e <;> simp [never]
  · next named =>
    simp only [lack?, drawing?, named, counted_symbolFindings, ← icon_isSome]
    cases w.icon? e <;> rfl
  · next named => simp_all [lack?, drawing?, Finding.counted, Notice.counted]

/-- What is counted at a place beside what is drawn there. -/
def loss? (p : Place) : Option Finding :=
  if p.ruled w.categories then
    if p.element.name = "rule" then
      if w.enables p.element then none
      else some (.notice (.disabledCategory ((p.element.get? "cat").getD "")))
    else if p.trail.isEmpty then none
    else w.lack? (w.selector p.trail) p.element
  else none

theorem counted_own (p : Place) :
    (w.ownFindings p).filter Finding.counted =
      (w.loss? p).toList ++ ((w.drawnAt? p).map fun drawn => .drawn drawn.1 drawn.2).toList := by
  rw [loss?, drawnAt?]
  cases ruled : p.ruled w.categories with
  | false => simp [w.ownFindings_unruled ruled, Place.reached, ruled]
  | true =>
    by_cases isRule : p.element.name = "rule"
    · have undrawn (s : Selector) : w.drawing? s p.element = none := by simp [drawing?, isRule]
      rw [w.ownFindings_rule ruled isRule, if_pos rfl, if_pos isRule, undrawn]
      split
      · rw [counted_notices, counted_rule]
        simp [notices]
      · simp [Finding.counted, Notice.counted]
    · by_cases top : p.trail = []
      · rw [w.ownFindings_top top isRule, topFindings]
        split <;> simp_all [Place.reached, Finding.counted, Notice.counted]
      · have reached : p.reached w.categories = true := by simp [Place.reached, top, ruled]
        rw [w.ownFindings_inside reached isRule, counted_instruction, if_pos reached, Option.map_map]
        simp [isRule, top, Function.comp_def]

end Workshop
end MapTheme
