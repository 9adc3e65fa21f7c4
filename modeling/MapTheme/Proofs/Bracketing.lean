import MapTheme.Proofs.Recovery

/-! What the tags of a text come to when they are assembled: the one tree that they are the
way around of, and otherwise one of three faults. A second tree counts from where it is
complete, an open element when the text has ended, and there is no root only where there
is no tag. -/
namespace MapTheme.Markup

/-- A tag that opens or closes an element, wherever it stands. -/
inductive Mark where
  | opening (name : String) (attributes : List (String × String))
  | closing
deriving Repr, DecidableEq

def Event.mark : Event → Mark
  | .start name attributes => .opening name attributes
  | .stop _ => .closing

mutual
/-- The tags on the way around a tree. -/
def traversal : Element → List Mark
  | ⟨name, attributes, children⟩ => .opening name attributes :: (traversalAll children ++ [.closing])

def traversalAll : List Element → List Mark
  | [] => []
  | e :: es => traversal e ++ traversalAll es
end

private theorem traversalAll_append (es fs : List Element) :
    traversalAll (es ++ fs) = traversalAll es ++ traversalAll fs := by
  induction es with
  | nil => rfl
  | cons e es ih => rw [List.cons_append, traversalAll, traversalAll, ih, List.append_assoc]

private theorem traversalAll_singleton (e : Element) : traversalAll [e] = traversal e := by
  rw [traversalAll, traversalAll, List.append_nil]

/-- What has been read of an element that is open. -/
def Unfinished.marks (u : Unfinished) : List Mark :=
  .opening u.name u.attributes :: traversalAll u.children.reverse

/-- What has been read when an assembly has come about. -/
def Assembly.marks (a : Assembly) : List Mark :=
  traversalAll a.root.toList ++ a.opened.reverse.flatMap Unfinished.marks

private theorem traversal_element (u : Unfinished) :
    traversal u.element = u.marks ++ [.closing] := by
  simp [Unfinished.element, Unfinished.marks, traversal]

/-- A second tree after a first one, complete where an event ends at a position. -/
def Doubled (events : List Event) (position : Nat) (name : String) : Prop :=
  ∃ before rest first second, events = before ++ .stop position :: rest ∧
    before.map Event.mark ++ [.closing] = traversal first ++ traversal second ∧ second.name = name

/-- What the events of a text of `length` bytes come to. -/
inductive Outcome (length : Nat) (events : List Event) : Except Fault Element → Prop
  | tree {e : Element} (whole : events.map Event.mark = traversal e) : Outcome length events (.ok e)
  | second {position : Nat} {name : String} (doubled : Doubled events position name) :
      Outcome length events (.error ⟨position, .secondRoot name⟩)
  | unclosed {before : List Mark} {name : String} {attributes : List (String × String)}
      {inside : List Element} (single : ∀ position other, ¬ Doubled events position other)
      (left : events.map Event.mark = before ++ .opening name attributes :: traversalAll inside) :
      Outcome length events (.error ⟨length, .unclosed name⟩)
  | empty (nothing : events = []) : Outcome length events (.error ⟨0, .noRoot⟩)

section Steps

variable {a b : Assembly} {e : Event} {events : List Event} {fault : Fault}

private theorem step_marks (stepped : a.step e = .ok b) : b.marks = a.marks ++ [e.mark] := by
  obtain ⟨opened, root⟩ := a
  cases e with
  | start name attributes =>
    obtain rfl := Except.ok.inj stepped
    simp [Assembly.marks, Unfinished.marks, Event.mark, traversalAll]
  | stop position =>
    match opened, root with
    | [], _ => contradiction
    | [inner], some root => contradiction
    | [inner], none =>
      obtain rfl := Except.ok.inj stepped
      simp [Assembly.marks, Event.mark, traversalAll, traversal_element]
    | inner :: outer :: opened, root =>
      obtain rfl := Except.ok.inj stepped
      simp [Assembly.marks, Unfinished.marks, Event.mark, traversalAll_append,
        traversalAll_singleton, traversal_element]

private theorem foldlM_marks (folded : events.foldlM Assembly.step a = .ok b) :
    b.marks = a.marks ++ events.map Event.mark := by
  induction events generalizing a with
  | nil =>
    obtain rfl := Except.ok.inj folded
    rw [List.map_nil, List.append_nil]
  | cons e events ih =>
    rw [List.foldlM_cons] at folded
    cases stepped : a.step e with
    | error fault =>
      rw [stepped] at folded
      contradiction
    | ok middle =>
      rw [stepped] at folded
      have rest := ih folded
      rw [rest, step_marks stepped, List.map_cons, List.append_assoc]
      rfl

/-- Whether events stop only what is open, when so many elements are. -/
def Closable (depth : Nat) : List Event → Prop
  | [] => True
  | .start _ _ :: events => Closable (depth + 1) events
  | .stop _ :: events => 0 < depth ∧ Closable (depth - 1) events

private theorem step_closable (closable : Closable a.opened.length (e :: events))
    (stepped : a.step e = .ok b) : Closable b.opened.length events := by
  obtain ⟨opened, root⟩ := a
  cases e with
  | start name attributes =>
    obtain rfl := Except.ok.inj stepped
    exact closable
  | stop position =>
    match opened, root with
    | [], _ => contradiction
    | [inner], some root => contradiction
    | [inner], none =>
      obtain rfl := Except.ok.inj stepped
      exact closable.2
    | inner :: outer :: opened, root =>
      obtain rfl := Except.ok.inj stepped
      exact closable.2

/-- Where nothing is stopped that is not open, only a second root is in the way. -/
theorem step_failed (closable : Closable a.opened.length (e :: events))
    (failed : a.step e = .error fault) :
    ∃ position inner root, e = .stop position ∧ a = ⟨[inner], some root⟩ ∧
      fault = ⟨position, .secondRoot inner.name⟩ := by
  obtain ⟨opened, root⟩ := a
  cases e with
  | start name attributes => contradiction
  | stop position =>
    match opened, root with
    | [], _ =>
      have open_ : 0 < 0 := closable.1
      contradiction
    | [inner], none => contradiction
    | [inner], some root => exact ⟨position, inner, root, rfl, rfl, (Except.error.inj failed).symm⟩
    | inner :: outer :: opened, root => contradiction

private theorem foldlM_failed (closable : Closable a.opened.length events)
    (failed : events.foldlM Assembly.step a = .error fault) :
    ∃ before position rest inner root, events = before ++ .stop position :: rest ∧
      before.foldlM Assembly.step a = .ok ⟨[inner], some root⟩ ∧
      fault = ⟨position, .secondRoot inner.name⟩ := by
  induction events generalizing a with
  | nil => contradiction
  | cons e events ih =>
    rw [List.foldlM_cons] at failed
    cases stepped : a.step e with
    | error other =>
      rw [stepped] at failed
      obtain rfl : other = fault := Except.error.inj failed
      obtain ⟨position, inner, root, rfl, rfl, reason⟩ := step_failed closable stepped
      exact ⟨[], position, events, inner, root, rfl, rfl, reason⟩
    | ok middle =>
      rw [stepped] at failed
      obtain ⟨before, position, rest, inner, root, rfl, folded, reason⟩ :=
        ih (step_closable closable stepped) failed
      refine ⟨e :: before, position, rest, inner, root, rfl, ?_, reason⟩
      rw [List.foldlM_cons, stepped]
      exact folded

end Steps

section Trees

mutual
/-- The way around a tree adds it. -/
theorem foldlM_traversal {a : Assembly} {events : List Event} : (e : Element) →
    events.map Event.mark = traversal e → a.Room [e] →
      events.foldlM Assembly.step a = .ok (a.add e)
  | ⟨name, attributes, children⟩, told, room => by
    rw [traversal, List.map_eq_cons_iff] at told
    obtain ⟨first, others, rfl, opens, told⟩ := told
    obtain ⟨inner, last, rfl, inside, ends⟩ := List.map_eq_append_iff.mp told
    obtain ⟨final, nothing, rfl, closes, none⟩ := List.map_eq_cons_iff.mp ends
    obtain rfl := List.map_eq_nil_iff.mp none
    cases first with
    | stop position => contradiction
    | start other given =>
      obtain ⟨rfl, rfl⟩ := Mark.opening.inj opens
      cases final with
      | start => contradiction
      | stop position =>
        let u : Unfinished := ⟨other, given, children.reverse⟩
        have element : u.element = ⟨other, given, children⟩ := by
          rw [Unfinished.element, List.reverse_reverse]
        have nested := foldlM_children other given inside (a := a)
        have added := step_stop u position (element ▸ room)
        rw [List.foldlM_cons]
        change (inner ++ [Event.stop position]).foldlM Assembly.step
          ⟨⟨other, given, []⟩ :: a.opened, a.root⟩ = _
        rw [List.foldlM_append, nested]
        change [Event.stop position].foldlM Assembly.step ⟨u :: a.opened, a.root⟩ = _
        rw [List.foldlM_cons, added, element]
        rfl

/-- The ways around trees inside of an open element make them its children. -/
theorem foldlM_children {a : Assembly} {events : List Event} {children : List Element}
    (name : String) (attributes : List (String × String))
    (told : events.map Event.mark = traversalAll children) :
    events.foldlM Assembly.step ⟨⟨name, attributes, []⟩ :: a.opened, a.root⟩ =
      .ok ⟨⟨name, attributes, children.reverse⟩ :: a.opened, a.root⟩ := by
  have inside : Assembly.Room ⟨⟨name, attributes, []⟩ :: a.opened, a.root⟩ children :=
    .inl (List.cons_ne_nil _ _)
  rw [foldlM_traversalAll children told inside, foldl_add, List.append_nil]

private theorem foldlM_traversalAll {a : Assembly} {events : List Event} : (es : List Element) →
    events.map Event.mark = traversalAll es → a.Room es →
      events.foldlM Assembly.step a = .ok (es.foldl Assembly.add a)
  | [], told, _ => by
    obtain rfl := List.map_eq_nil_iff.mp told
    rfl
  | e :: es, told, room => by
    obtain ⟨first, others, rfl, one, more⟩ := List.map_eq_append_iff.mp told
    rw [List.foldlM_append, foldlM_traversal e one room.first]
    exact foldlM_traversalAll es more room.add
end

end Trees

section Outcomes

variable {reading : Reading} {events : List Event} {fault : Fault} {position : Nat} {name : String}
  {r : Except Fault Element}

/-- A second tree is a fault where it is complete, whatever comes after it. -/
theorem doubled_failed (doubled : Doubled events position name) :
    events.foldlM Assembly.step {} = .error ⟨position, .secondRoot name⟩ := by
  obtain ⟨before, rest, first, ⟨name, attributes, children⟩, rfl, trees, rfl⟩ := doubled
  rw [traversal, ← List.cons_append, ← List.append_assoc, List.append_left_inj] at trees
  obtain ⟨whole, opened, rfl, one, two⟩ := List.map_eq_append_iff.mp trees
  obtain ⟨start, inner, rfl, opens, inside⟩ := List.map_eq_cons_iff.mp two
  cases start with
  | stop position => contradiction
  | start other given =>
    obtain ⟨rfl, rfl⟩ := Mark.opening.inj opens
    have rooted : whole.foldlM Assembly.step {} = .ok ⟨[], some first⟩ :=
      foldlM_traversal first one (.inr le_rfl)
    have nested : inner.foldlM Assembly.step ⟨[⟨other, given, []⟩], some first⟩ =
        .ok ⟨[⟨other, given, children.reverse⟩], some first⟩ :=
      foldlM_children other given inside (a := ⟨[], some first⟩)
    rw [List.foldlM_append, List.foldlM_append, rooted]
    change ((inner.foldlM Assembly.step ⟨[⟨other, given, []⟩], some first⟩) >>= _) = _
    rw [nested]
    rfl

theorem failed_doubled (closable : Closable 0 events)
    (failed : events.foldlM Assembly.step {} = .error fault) :
    ∃ position name, fault = ⟨position, .secondRoot name⟩ ∧ Doubled events position name := by
  obtain ⟨before, position, rest, inner, root, rfl, folded, rfl⟩ := foldlM_failed (a := {}) closable failed
  refine ⟨position, inner.name, rfl, before, rest, root, inner.element, rfl, ?_, rfl⟩
  have read := foldlM_marks folded
  have told : before.map Event.mark = traversal root ++ inner.marks := by
    simpa [Assembly.marks, traversalAll] using read.symm
  rw [told, traversal_element, List.append_assoc]

private theorem outcome_finish {a : Assembly} (folded : events.foldlM Assembly.step {} = .ok a)
    (length : Nat) : Outcome length events (a.finish length) := by
  have read := foldlM_marks folded
  have told : events.map Event.mark = a.marks := by
    simpa [Assembly.marks, traversalAll] using read.symm
  obtain ⟨opened, root⟩ := a
  match opened, root with
  | [], none => exact .empty (List.map_eq_nil_iff.mp told)
  | [], some root =>
    refine .tree (told.trans ?_)
    simp [Assembly.marks, traversalAll]
  | inner :: outer, root =>
    have left : events.map Event.mark = Assembly.marks ⟨outer, root⟩ ++
        .opening inner.name inner.attributes :: traversalAll inner.children.reverse := by
      rw [told]
      simp [Assembly.marks, Unfinished.marks]
    refine .unclosed (fun position other doubled => ?_) left
    rw [doubled_failed doubled] at folded
    contradiction

/-- What a reading without a fault comes to is one of the outcomes. -/
theorem outcome_tree (clean : reading.fault = none) (closable : Closable 0 reading.events)
    (length : Nat) : Outcome length reading.events (reading.tree length) := by
  rw [Reading.tree]
  cases folded : reading.events.foldlM Assembly.step {} with
  | error fault =>
    obtain ⟨position, name, rfl, doubled⟩ := failed_doubled closable folded
    exact .second doubled
  | ok a =>
    have finished : Outcome length reading.events (a.finish length) := outcome_finish folded length
    rw [clean]
    exact finished

/-- And there is no other outcome. -/
theorem tree_of_outcome {length : Nat} (clean : reading.fault = none)
    (closable : Closable 0 reading.events) (outcome : Outcome length reading.events r) :
    reading.tree length = r := by
  have finish {a : Assembly} (folded : reading.events.foldlM Assembly.step {} = .ok a) :
      reading.tree length = a.finish length := by
    rw [Reading.tree, folded, clean]
    rfl
  cases outcome with
  | tree whole => exact finish (foldlM_traversal _ whole (.inr le_rfl))
  | second doubled =>
    rw [Reading.tree, doubled_failed doubled]
    rfl
  | @unclosed before name attributes inside single left =>
    cases folded : reading.events.foldlM Assembly.step {} with
    | error fault =>
      obtain ⟨position, other, rfl, doubled⟩ := failed_doubled closable folded
      exact absurd doubled (single position other)
    | ok a =>
      obtain ⟨outside, opened, parts, _, two⟩ := List.map_eq_append_iff.mp left
      obtain ⟨start, inner, rfl, opens, told⟩ := List.map_eq_cons_iff.mp two
      cases start with
      | stop position => contradiction
      | start other given =>
        obtain ⟨rfl, rfl⟩ := Mark.opening.inj opens
        have whole := folded
        rw [parts, List.foldlM_append] at whole
        cases earlier : outside.foldlM Assembly.step {} with
        | error fault =>
          rw [earlier] at whole
          contradiction
        | ok b =>
          rw [earlier] at whole
          -- The trees inside have become children of the open element, which is on top then.
          change inner.foldlM Assembly.step ⟨⟨other, given, []⟩ :: b.opened, b.root⟩ = _ at whole
          rw [foldlM_children other given told] at whole
          rw [finish folded, ← Except.ok.inj whole]
          rfl
  | empty nothing =>
    have folded : reading.events.foldlM Assembly.step {} = .ok {} := by
      rw [nothing]
      rfl
    exact finish folded

end Outcomes

end MapTheme.Markup
