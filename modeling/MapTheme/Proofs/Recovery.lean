import MapTheme.Proofs.Cutting

/-! Every tree of elements can be got back from what it is written as. Between its tags
there may be any text and any comments, and an element without children may be one tag
or two; none of this is in the tree that is read. -/
namespace MapTheme.Markup

/-- What elements that stand next to each other may be written as. -/
inductive Written : List Element → List Char → Prop
  | nil {gap : List Char} (between : Gap gap) : Written [] gap
  | empty {name : String} {attributes : List (String × String)} {es : List Element}
      {gap rest : List Char} (between : Gap gap) (after : Written es rest) :
      Written (⟨name, attributes, []⟩ :: es)
        (gap ++ '<' :: (writeTag name attributes ++ '/' :: '>' :: rest))
  | full {name : String} {attributes : List (String × String)} {children es : List Element}
      {gap inner rest : List Char} (between : Gap gap) (inside : Written children inner)
      (after : Written es rest) :
      Written (⟨name, attributes, children⟩ :: es)
        (gap ++ '<' :: (writeTag name attributes ++ '>' ::
          (inner ++ '<' :: '/' :: (name.toList ++ '>' :: rest))))

mutual
theorem written_write {es : List Element} {rest : List Char} (e : Element)
    (after : Written es rest) : Written (e :: es) (write e ++ rest) := by
  obtain ⟨name, attributes, children⟩ := e
  have full : Written (⟨name, attributes, children⟩ :: es) _ :=
    .full .nil (written_writeAll children) after
  simpa [write] using full

theorem written_writeAll (es : List Element) : Written es (writeAll es) := by
  cases es with
  | nil => exact .nil .nil
  | cons e es => exact written_write e (written_writeAll es)
end

section Mark

variable {c : Char} {es : List Element} {cs : List Char}

theorem Gap.tail (gap : Gap (c :: cs)) (other : c ≠ '<') : Gap cs := by
  generalize whole : c :: cs = written at gap
  induction gap with
  | nil => contradiction
  | @text text gap plain more ih =>
    cases text with
    | nil => exact ih whole
    | cons first text =>
      rw [(List.cons.inj whole).2]
      exact .text (List.not_mem_of_not_mem_cons plain) more
  | comment => exact absurd (List.cons.inj whole).1 other

private theorem gap_tail_append {gap rest : List Char} (between : Gap gap)
    (whole : c :: cs = gap ++ '<' :: rest) (other : c ≠ '<') :
    ∃ less, Gap less ∧ cs = less ++ '<' :: rest := by
  cases gap with
  | nil => exact absurd (List.cons.inj whole).1 other
  | cons first gap =>
    obtain ⟨rfl, rfl⟩ := List.cons.inj whole
    exact ⟨gap, between.tail other, rfl⟩

theorem Written.tail (written : Written es (c :: cs)) (other : c ≠ '<') : Written es cs := by
  generalize whole : c :: cs = text at written
  cases written with
  | nil between =>
    subst whole
    exact .nil (between.tail other)
  | empty between after =>
    obtain ⟨less, shorter, rfl⟩ := gap_tail_append between whole other
    exact .empty shorter after
  | full between inside after =>
    obtain ⟨less, shorter, rfl⟩ := gap_tail_append between whole other
    exact .full shorter inside after

theorem Written.withoutMark (written : Written es cs) : Written es (withoutMark cs) := by
  unfold Markup.withoutMark
  split
  -- The mark is text before the first tag, and what is left of this text may still stand there.
  · exact written.tail (by decide)
  · exact written

end Mark

section Events

variable {name : String} {attributes : List (String × String)} {opened : List (List Char)}
  {start stop : Nat}

private theorem writeTag_last (named : isName name.toList = true)
    (attributes : List (String × String)) :
    (writeTag name attributes).getLast? ≠ some '/' := by
  rcases List.eq_nil_or_concat attributes with rfl | ⟨front, last, rfl⟩
  · intro slash
    have member : '/' ∈ name.toList := by
      rw [writeTag, writeAttributes, List.flatMap_nil, List.append_nil] at slash
      exact List.mem_of_getLast? slash
    exact not_mem_of_isName named (by decide) member
  · rw [List.concat_eq_append]
    have quoted : writeTag name (front ++ [last]) = (name.toList ++ (writeAttributes front ++
        ' ' :: (last.1.toList ++ '=' :: '"' :: escape last.2.toList))) ++ ['"'] := by
      simp [writeTag, writeAttributes, writeAttribute]
    rw [quoted, List.getLast?_concat]
    decide

private theorem writeTag_name (named : isName name.toList = true)
    (attributes : List (String × String)) :
    (writeTag name attributes).takeWhile (!isSpace ·) = name.toList ∧
      (writeTag name attributes).dropWhile (!isSpace ·) = writeAttributes attributes := by
  have letters : ∀ c ∈ name.toList, (!isSpace c) = true := fun c member => by
    rw [isSpace_of_isNameChar (isNameChar_of_isName named c member)]
    rfl
  rw [writeTag, List.takeWhile_append_of_pos letters, List.dropWhile_append_of_pos letters]
  cases attributes with
  | nil => exact ⟨List.append_nil _, rfl⟩
  | cons a attributes =>
    rw [writeAttributes_cons]
    exact ⟨List.append_nil _, rfl⟩

private theorem readAttributes_writeTag (plain : PlainTag name attributes) (total : Nat) :
    readAttributes total [] (writeAttributes attributes) = .ok attributes :=
  readAttributes_written plain.keys plain.distinct fun _ _ => rfl

private theorem writeTag_slash (named : isName name.toList = true)
    (attributes : List (String × String))
    (rest cs : List Char) : writeTag name attributes ++ rest ≠ '/' :: cs := by
  obtain ⟨c, inner, letter, shape⟩ := writeTag_cons named attributes
  rw [shape]
  exact fun same => ne_of_isNameChar letter (by decide) (List.cons.inj same).1

private theorem ofTag_opening (plain : PlainTag name attributes) :
    Event.ofTag opened ⟨writeTag name attributes, start, stop⟩ =
      .ok ([.start name attributes], name.toList :: opened) := by
  obtain ⟨take, drop⟩ := writeTag_name plain.name attributes
  have whole : splitSlash (writeTag name attributes) = (writeTag name attributes, false) :=
    if_neg (writeTag_last plain.name attributes)
  unfold Event.ofTag
  split
  · next slash =>
    exact absurd ((List.append_nil _).trans slash) (writeTag_slash plain.name attributes [] _)
  · simp only [whole, take, drop, readAttributes_writeTag plain, localName_of_isName plain.name,
      String.ofList_toList, Bool.false_eq_true, if_false]

private theorem ofTag_empty (plain : PlainTag name attributes) :
    Event.ofTag opened ⟨writeTag name attributes ++ ['/'], start, stop⟩ =
      .ok ([.start name attributes, .stop stop], opened) := by
  obtain ⟨take, drop⟩ := writeTag_name plain.name attributes
  have cut : splitSlash (writeTag name attributes ++ ['/']) = (writeTag name attributes, true) := by
    rw [splitSlash, List.getLast?_concat, if_pos rfl, List.dropLast_concat]
  unfold Event.ofTag
  split
  · next slash => exact absurd slash (writeTag_slash plain.name attributes ['/'] _)
  · simp only [cut, take, drop, readAttributes_writeTag plain, localName_of_isName plain.name,
      String.ofList_toList, if_true]

private theorem closingName_of_isName {cs : List Char} (named : isName cs = true) :
    closingName cs = cs := by
  have letters : ∀ c ∈ cs, isSpace c = false := fun c member =>
    isSpace_of_isNameChar (isNameChar_of_isName named c member)
  have trimmed : cs.reverse.dropWhile isSpace = cs.reverse := by
    rw [List.dropWhile_eq_self_iff]
    intro long
    rw [letters _ (List.mem_reverse.mp (List.getElem_mem long))]
    exact Bool.false_ne_true
  rw [closingName, trimmed, List.reverse_reverse, ite_self]

private theorem ofTag_closing (named : isName name.toList = true) :
    Event.ofTag (name.toList :: opened) ⟨'/' :: name.toList, start, stop⟩ =
      .ok ([.stop stop], opened) := by
  simp only [Event.ofTag, closingName_of_isName named, if_true]

end Events

def Assembly.add (a : Assembly) (e : Element) : Assembly :=
  match a.opened with
  | [] => ⟨[], some e⟩
  | outer :: opened => { a with opened := { outer with children := e :: outer.children } :: opened }

/-- Whether an assembly can take these elements: next to each other they are many
children of an open element, but at most one root. -/
def Assembly.Room (a : Assembly) (es : List Element) : Prop :=
  a.opened ≠ [] ∨ a.root.toList.length + es.length ≤ 1

/-- The reading of a text that begins at an offset, while some names are open. -/
def Reading.ofRest (offset : Nat) (opened : List (List Char)) (cs : List Char) : Reading :=
  .ofTags (scan offset cs).2 opened (scan offset cs).1

def Reading.after (events : List Event) (r : Reading) : Reading := ⟨events ++ r.events, r.fault⟩

/-- Reading a text leads from some open names and an assembly to others, wherever the
text stands and whatever follows it. -/
def Leads (cs : List Char) (opened : List (List Char)) (a : Assembly)
    (opened' : List (List Char)) (a' : Assembly) : Prop :=
  ∀ offset rest, ∃ events stop,
    Reading.ofRest offset opened (cs ++ rest) = (Reading.ofRest stop opened' rest).after events ∧
      events.foldlM Assembly.step a = .ok a'

section Assembling

variable {a : Assembly} {e : Element} {es : List Element}

theorem step_stop (u : Unfinished) (position : Nat) (room : a.Room [u.element]) :
    Assembly.step ⟨u :: a.opened, a.root⟩ (.stop position) = .ok (a.add u.element) := by
  obtain ⟨opened, root⟩ := a
  cases opened with
  | cons outer opened => rfl
  | nil =>
    cases root with
    | none => rfl
    | some root =>
      rcases room with inside | single
      · contradiction
      · contradiction

theorem Assembly.Room.first (room : a.Room (e :: es)) : a.Room [e] := by
  refine room.imp_right fun single => ?_
  rw [List.length_cons] at single
  rw [List.length_singleton]
  omega

theorem Assembly.Room.add (room : a.Room (e :: es)) : (a.add e).Room es := by
  obtain ⟨opened, root⟩ := a
  cases opened with
  | cons outer opened => exact .inl (List.cons_ne_nil _ _)
  | nil =>
    rcases room with inside | single
    · contradiction
    · refine .inr ?_
      rw [List.length_cons] at single
      show 1 + es.length ≤ 1
      omega

theorem foldl_add (u : Unfinished) (opened : List Unfinished) (root : Option Element)
    (es : List Element) :
    es.foldl Assembly.add ⟨u :: opened, root⟩ =
      ⟨{ u with children := es.reverse ++ u.children } :: opened, root⟩ := by
  induction es generalizing u with
  | nil => rfl
  | cons e es ih =>
    rw [List.foldl_cons, Assembly.add, ih, List.reverse_cons, List.append_assoc]
    rfl

end Assembling

section Reading

variable {a b c : Assembly} {opened middle last : List (List Char)} {cs ds : List Char}
  {name : String} {attributes : List (String × String)}

theorem Leads.append (first : Leads cs opened a middle b) (second : Leads ds middle b last c) :
    Leads (cs ++ ds) opened a last c := by
  intro offset rest
  obtain ⟨events, stop, read, folded⟩ := first offset (ds ++ rest)
  obtain ⟨more, finish, readMore, foldedMore⟩ := second stop rest
  refine ⟨events ++ more, finish, ?_, ?_⟩
  · rw [List.append_assoc, read, readMore]
    simp only [Reading.after, List.append_assoc]
  · rw [List.foldlM_append, folded]
    exact foldedMore

theorem leads_gap (between : Gap cs) (opened : List (List Char)) (a : Assembly) :
    Leads cs opened a opened a := by
  intro offset rest
  obtain ⟨stop, passed⟩ := scan_gap between offset rest
  refine ⟨[], stop, ?_, rfl⟩
  rw [Reading.ofRest, passed]
  rfl

theorem leads_tag (enclosed : Enclosed cs)
    (read : ∀ start stop, ∃ events, Event.ofTag opened ⟨cs, start, stop⟩ = .ok (events, middle) ∧
      events.foldlM Assembly.step a = .ok b) :
    Leads ('<' :: (cs ++ ['>'])) opened a middle b := by
  intro offset rest
  obtain ⟨events, same, folded⟩ := read offset (offset + width cs + 2)
  refine ⟨events, offset + width cs + 2, ?_, folded⟩
  have shape : '<' :: (cs ++ ['>']) ++ rest = '<' :: (cs ++ '>' :: rest) := by simp
  rw [shape, Reading.ofRest, scan_tag enclosed]
  simp only [Reading.ofTags, same]
  rfl

theorem leads_opening (plain : PlainTag name attributes) (opened : List (List Char))
    (a : Assembly) :
    Leads ('<' :: (writeTag name attributes ++ ['>'])) opened a (name.toList :: opened)
      ⟨⟨name, attributes, []⟩ :: a.opened, a.root⟩ :=
  leads_tag (enclosed_writeTag plain) fun _ _ => ⟨_, ofTag_opening plain, rfl⟩

theorem leads_empty (plain : PlainTag name attributes) (opened : List (List Char))
    (room : a.Room [⟨name, attributes, []⟩]) :
    Leads ('<' :: (writeTag name attributes ++ ['/'] ++ ['>'])) opened a opened
      (a.add ⟨name, attributes, []⟩) := by
  refine leads_tag (enclosed_writeTag plain).slash fun _ stop => ⟨_, ofTag_empty plain, ?_⟩
  have added : Assembly.step ⟨⟨name, attributes, []⟩ :: a.opened, a.root⟩ (.stop stop) = _ :=
    step_stop _ stop room
  change [Event.stop stop].foldlM Assembly.step ⟨⟨name, attributes, []⟩ :: a.opened, a.root⟩ = _
  rw [List.foldlM_cons, added]
  rfl

theorem leads_closing (named : isName name.toList = true) (opened : List (List Char))
    (u : Unfinished) (room : a.Room [u.element]) :
    Leads ('<' :: ('/' :: name.toList ++ ['>'])) (name.toList :: opened)
      ⟨u :: a.opened, a.root⟩ opened (a.add u.element) := by
  refine leads_tag (enclosed_closing named) fun _ stop => ⟨_, ofTag_closing named, ?_⟩
  rw [List.foldlM_cons, step_stop u stop room]
  rfl

/-- Reading what elements are written as adds them, and nothing else. -/
theorem leads_written {es : List Element} (written : Written es cs) (plain : PlainAll es)
    (opened : List (List Char)) (room : a.Room es) :
    Leads cs opened a opened (es.foldl Assembly.add a) := by
  -- The children of an element are read into another assembly, that with the element open.
  induction written generalizing opened a with
  | nil between => exact leads_gap between opened a
  | @empty name attributes es gap rest between _ ih =>
    obtain ⟨⟨tag, _⟩, others⟩ := plain
    have whole := (leads_gap between opened a).append ((leads_empty tag opened room.first).append
      (ih others opened room.add))
    simpa using whole
  | @full name attributes children es gap inner rest between _ _ inside after =>
    obtain ⟨⟨tag, below⟩, others⟩ := plain
    let u : Unfinished := ⟨name, attributes, children.reverse⟩
    have element : u.element = ⟨name, attributes, children⟩ := by
      rw [Unfinished.element, List.reverse_reverse]
    have nested := inside (a := ⟨⟨name, attributes, []⟩ :: a.opened, a.root⟩) below
      (name.toList :: opened) (.inl (List.cons_ne_nil _ _))
    rw [foldl_add, List.append_nil] at nested
    have closed := leads_closing tag.name opened u (element ▸ room.first)
    rw [element] at closed
    have whole := (leads_gap between opened a).append ((leads_opening tag opened a).append
      (nested.append (closed.append (after others opened room.add))))
    simpa using whole

theorem tree_of_leads {e : Element} (leads : Leads cs [] {} [] ⟨[], some e⟩) (length : Nat) :
    (Reading.ofText cs).tree length = .ok e := by
  obtain ⟨events, stop, read, folded⟩ := leads 0 []
  have nothing : Reading.ofRest stop [] [] = ⟨[], none⟩ := by
    rw [Reading.ofRest, scan]
    rfl
  have whole : Reading.ofText cs = ⟨events, none⟩ := by
    change Reading.ofRest 0 [] cs = _
    rw [List.append_nil, nothing, Reading.after, List.append_nil] at read
    exact read
  rw [whole, Reading.tree, folded]
  rfl

end Reading

/-- A tree whose tags are plain is read back from whatever it is written as. -/
theorem parse_written (root : Element) (plain : Plain root) :
    (∃ text : String, Written [root] text.toList) ∧
      ∀ text : String, Written [root] text.toList → parse text = .ok root := by
  refine ⟨⟨String.ofList (writeAll [root]), ?_⟩, fun text written => ?_⟩
  · rw [String.toList_ofList]
    exact written_writeAll [root]
  · have room : Assembly.Room {} [root] := .inr le_rfl
    have leads := leads_written written.withoutMark ⟨plain, trivial⟩ [] room
    exact tree_of_leads leads _

/-- A rule with a value of all the characters that have names. -/
def reservedRule : Element := ⟨"rule", [("k", "<\"&'>"), ("v", "")], [⟨"line", [], []⟩]⟩

/-- The rule after a byte order mark and a comment whose body is `->`. -/
def reservedText : String :=
  "\uFEFF<!--->--><rule k=\"&lt;&quot;&amp;&apos;&gt;\" v=\"\">in > out<line/></rule>"

theorem reserved_read : Plain reservedRule ∧ Written [reservedRule] reservedText.toList ∧
    parse reservedText = .ok reservedRule := by
  have plain : Plain reservedRule := by
    refine ⟨⟨by decide, by decide, by decide⟩, ⟨⟨by decide, by decide, by decide⟩, trivial⟩, trivial⟩
  have written : Written [reservedRule] reservedText.toList := by
    have comment : Gap ("\uFEFF".toList ++
        '<' :: '!' :: '-' :: '-' :: ("->".toList ++ '-' :: '-' :: '>' :: [])) :=
      .text (by decide) (.comment (by decide) .nil)
    have text : Gap ("in > out".toList ++ []) := .text (by decide) .nil
    exact .full comment (.empty text (.nil .nil)) (.nil .nil)
  exact ⟨plain, written, (parse_written reservedRule plain).2 reservedText written⟩

end MapTheme.Markup
