import MapTheme.Sheet.Workshop

/-! What the elements of a theme come to, in document order: drawings with the
selectors of the rules that they stand in, and notices of what was passed over. -/
namespace MapTheme

inductive Finding where
  | notice (n : Notice)
  /-- A caption that no kind of feature can show. -/
  | unplaceable
  | drawn (selector : Selector) (drawing : Drawing)

namespace Workshop

def notices (ns : List Notice) : List Finding := ns.map .notice

def labelFindings (w : Workshop) (s : Selector) (placement : Placement) (e : Element) :
    List Finding :=
  match w.labelKey? e with
  | none => [.notice (.unknownLabelKey e.name ((e.get? "k").getD ""))]
  | some key =>
    notices (labelComplaints e) ++
      if placement = .caption ∧ s.geometry = .never then [.unplaceable]
      else [.drawn s (.label placement (w.label e key))]

def symbolFindings (w : Workshop) (s : Selector) (e : Element) : List Finding :=
  notices (w.searchNotices e) ++
    match w.icon? e with
    | none => [.notice (.symbolNotFound ((e.get? "src").getD ""))]
    | some icon => notices (symbolComplaints e) ++ [.drawn s (.symbol (symbol e icon))]

def instructionFindings (w : Workshop) (s : Selector) (e : Element) : List Finding :=
  match e.name with
  | "area" => notices (w.areaComplaints e) ++ [.drawn s (.path (w.area e))]
  | "line" => notices (lineComplaints e) ++ [.drawn s (.path (w.line e))]
  | "circle" => notices (circleComplaints e) ++ [.drawn s (.circle (w.circle e))]
  | "pathText" => w.labelFindings s .along e
  | "caption" => w.labelFindings s .caption e
  | "symbol" => w.symbolFindings s e
  | name => [.notice (.ignoredInRule name)]

mutual
/-- What an element comes to inside a rule with selector `s`. -/
def findings (w : Workshop) (s : Selector) : Element → List Finding
  | ⟨name, attributes, children⟩ =>
    let e : Element := ⟨name, attributes, children⟩
    if name = "rule" then
      if w.enables e then
        notices (w.ruleComplaints e) ++ w.findingsAll (s.refine (w.declared e)) children
      else [.notice (.disabledCategory ((e.get? "cat").getD ""))]
    else w.instructionFindings s e

def findingsAll (w : Workshop) (s : Selector) : List Element → List Finding
  | [] => []
  | e :: es => w.findings s e ++ w.findingsAll s es
end

theorem findings_rule (w : Workshop) (s : Selector) {e : Element} (isRule : e.name = "rule") :
    w.findings s e =
      if w.enables e then
        notices (w.ruleComplaints e) ++ w.findingsAll (s.refine (w.declared e)) e.children
      else [.notice (.disabledCategory ((e.get? "cat").getD ""))] := by
  obtain ⟨name, attributes, children⟩ := e
  rw [findings, if_pos isRule]

theorem findings_other (w : Workshop) (s : Selector) {e : Element} (isNoRule : e.name ≠ "rule") :
    w.findings s e = w.instructionFindings s e := by
  obtain ⟨name, attributes, children⟩ := e
  rw [findings, if_neg isNoRule]

def topFindings (w : Workshop) (e : Element) : List Finding :=
  match e.name with
  | "rule" => w.findings {} e
  | "stylemenu" => []
  | name => [.notice (.ignoredInTheme name)]

def themeFindings (w : Workshop) (root : Element) : List Finding :=
  root.children.flatMap w.topFindings

end Workshop
end MapTheme
