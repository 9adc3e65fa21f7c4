import MapTheme.Proofs.Transcript

/-! Where faults are. Sections are cut out of a text one after the other, so what they start
and end at are offsets between two of its characters, and it is at such an offset that every
fault is reported. An element is ended only where its start was read, so a text never fails
for an end without one. -/
namespace MapTheme.Markup

/-- An offset in bytes between two characters of a text, or at either end of it. -/
def Boundary (cs : List Char) (position : Nat) : Prop :=
  ∃ before after, cs = before ++ after ∧ position = width before

section Boundaries

variable {cs : List Char} {position : Nat}

private theorem boundary_zero (cs : List Char) : Boundary cs 0 := ⟨[], cs, rfl, rfl⟩

private theorem boundary_width (cs : List Char) : Boundary cs (width cs) :=
  ⟨cs, [], (List.append_nil cs).symm, rfl⟩

private theorem utf8ByteSize_ofList (cs : List Char) :
    (String.ofList cs).utf8ByteSize = width cs := by
  induction cs with
  | nil => rfl
  | cons c cs ih =>
    rw [String.ofList_cons, String.utf8ByteSize_append, String.utf8ByteSize_singleton, ih,
      width_cons]

private theorem Boundary.le (boundary : Boundary cs position) :
    position ≤ (String.ofList cs).utf8ByteSize := by
  obtain ⟨before, after, rfl, rfl⟩ := boundary
  rw [utf8ByteSize_ofList, width_append]
  omega

private theorem Boundary.isValid (boundary : Boundary cs position) :
    (⟨position⟩ : String.Pos.Raw).IsValid (String.ofList cs) := by
  obtain ⟨before, after, rfl, rfl⟩ := boundary
  apply String.Pos.Raw.isValid_iff_exists_append.mpr
  refine ⟨String.ofList before, String.ofList after, String.ofList_append, ?_⟩
  apply String.Pos.Raw.ext
  exact (utf8ByteSize_ofList before).symm

end Boundaries

/-- A fault between two characters of a text, and not for an end tag of nothing. -/
structure Fault.Sound (cs : List Char) (fault : Fault) : Prop where
  boundary : Boundary cs fault.position
  started : fault.reason ≠ .unbalancedEnd

/-- A tag as it stands in a text, its content between brackets. -/
def Tag.Within (cs : List Char) (tag : Tag) : Prop :=
  ∃ before after, cs = before ++ '<' :: (tag.content ++ '>' :: after) ∧
    tag.start = width before ∧ tag.stop = width before + width tag.content + 2

/-- What a scan finds from an offset on: tags, each after the one before it. -/
structure Scanned (cs : List Char) (offset : Nat) (found : List Tag × Option Fault) : Prop where
  within : ∀ tag ∈ found.1, tag.Within cs
  later : ∀ tag ∈ found.1, offset ≤ tag.start
  ordered : found.1.Pairwise (·.stop ≤ ·.start)
  sound : ∀ fault ∈ found.2, fault.Sound cs

section Scans

variable {cs content : List Char} {tag : Tag} {fault : Fault} {start stop : Nat}

private theorem Tag.Within.start_boundary (within : tag.Within cs) : Boundary cs tag.start := by
  obtain ⟨before, after, whole, starts, _⟩ := within
  exact ⟨before, _, whole, starts⟩

private theorem Tag.Within.stop_boundary (within : tag.Within cs) : Boundary cs tag.stop := by
  obtain ⟨before, after, whole, _, stops⟩ := within
  refine ⟨before ++ '<' :: (tag.content ++ ['>']), after, ?_, ?_⟩
  · rw [whole]
    simp
  · have bracket : '<'.utf8Size = 1 ∧ '>'.utf8Size = 1 := ⟨rfl, rfl⟩
    simp only [stops, width_append, width_cons, width_nil]
    omega

theorem Tag.Within.nonempty (within : tag.Within cs) : tag.start < tag.stop := by
  obtain ⟨before, after, _, starts, stops⟩ := within
  omega

/-- A section that is cut whole and still no good is so from its first character, or, without
the name of a document type, at its last. -/
theorem Section.fault?_located {kind : Section} (found : kind.fault? start stop content = some fault) :
    (fault.position = start ∨ fault.position = stop - 1) ∧ fault.reason ≠ .unbalancedEnd := by
  unfold Section.fault? at found
  cases kind with
  | tag => contradiction
  | doctype =>
    simp only at found
    split at found
    · cases found
      exact ⟨.inl rfl, Reason.noConfusion⟩
    · split at found
      · cases found
        exact ⟨.inr rfl, Reason.noConfusion⟩
      · contradiction
  | data | comment | instruction =>
    simp only at found
    split at found <;> cases found
    exact ⟨.inl rfl, Reason.noConfusion⟩

private theorem Tag.Within.last_boundary (within : tag.Within cs) : Boundary cs (tag.stop - 1) := by
  obtain ⟨before, after, whole, _, stops⟩ := within
  refine ⟨before ++ '<' :: tag.content, '>' :: after, ?_, ?_⟩
  · rw [whole, List.append_assoc, List.cons_append]
  · have bracket : '<'.utf8Size = 1 := rfl
    simp only [stops, width_append, width_cons]
    omega

theorem Scanned.failed (offset : Nat) (sound : fault.Sound cs) : Scanned cs offset ([], some fault) where
  within := by simp
  later := by simp
  ordered := .nil
  sound other same := Option.some.inj same ▸ sound

theorem Scanned.skip {offset : Nat} {found : List Tag × Option Fault} (le : offset ≤ stop)
    (rest : Scanned cs stop found) : Scanned cs offset found where
  within := rest.within
  later other member := Nat.le_trans le (rest.later other member)
  ordered := rest.ordered
  sound := rest.sound

theorem Scanned.cons {offset : Nat} {tags : List Tag} {ended : Option Fault}
    (within : tag.Within cs) (le : offset ≤ tag.start) (rest : Scanned cs tag.stop (tags, ended)) :
    Scanned cs offset (tag :: tags, ended) where
  within := List.forall_mem_cons.mpr ⟨within, rest.within⟩
  later := by
    refine List.forall_mem_cons.mpr ⟨le, fun other member => ?_⟩
    have after := rest.later other member
    have size := within.nonempty
    omega
  ordered := List.pairwise_cons.mpr ⟨rest.later, rest.ordered⟩
  sound := rest.sound

section Openings

variable {c : Char} {rest tail : List Char} {closes : List Char → Bool}

private theorem split_open (found : cs.dropWhile (· ≠ '<') = c :: rest) :
    cs = cs.takeWhile (· ≠ '<') ++ '<' :: rest := by
  have rejected := rejected_of_dropWhile found
  obtain rfl : c = '<' := by simpa using rejected
  rw [← found, List.takeWhile_append_dropWhile]

private theorem boundary_open (before : List Char) (found : cs.dropWhile (· ≠ '<') = c :: rest) :
    Boundary (before ++ cs) (width before + width (cs.takeWhile (· ≠ '<'))) := by
  refine ⟨before ++ cs.takeWhile (· ≠ '<'), '<' :: rest, ?_, (width_append _ _).symm⟩
  rw [List.append_assoc, ← split_open found]

private theorem split_section (found : cs.dropWhile (· ≠ '<') = c :: rest)
    (cut : cutAt closes [] rest = some (content, tail)) :
    cs = cs.takeWhile (· ≠ '<') ++ '<' :: (content ++ '>' :: tail) := by
  have closed : rest = content ++ '>' :: tail := cutAt_eq cut
  rw [← closed]
  exact split_open found

private theorem within_section (before : List Char) (found : cs.dropWhile (· ≠ '<') = c :: rest)
    (cut : cutAt closes [] rest = some (content, tail))
    (starts : start = width before + width (cs.takeWhile (· ≠ '<'))) :
    Tag.Within (before ++ cs) ⟨content, start, start + width content + 2⟩ := by
  refine ⟨before ++ cs.takeWhile (· ≠ '<'), tail, ?_, ?_, ?_⟩
  · rw [List.append_assoc, ← split_section found cut]
  · rw [width_append, starts]
  · rw [width_append, starts]

end Openings

/-- Each section takes up the scan where the one before it ended. -/
theorem scan_scanned (before cs : List Char) :
    Scanned (before ++ cs) (width before) (scan (width before) cs) := by
  generalize given : width before = offset
  -- With each section the text before the rest gets longer, and the whole stays what it is.
  fun_induction scan offset cs generalizing before with
  | case1 => constructor <;> simp
  | case2 offset cs c rest found start unknown =>
    subst given
    exact .failed _ ⟨boundary_open before found, Reason.noConfusion⟩
  | case3 offset cs c rest found start kind named uncut =>
    subst given
    refine .failed _ ⟨boundary_open before found, ?_⟩
    cases kind <;> exact Reason.noConfusion
  | case4 offset cs c rest found start kind named content tail cut stop fault bad =>
    subst given
    have within : Tag.Within (before ++ cs) ⟨content, start, stop⟩ :=
      within_section before found cut rfl
    obtain ⟨position, reason⟩ := Section.fault?_located bad
    refine .failed _ ⟨?_, reason⟩
    rcases position with first | last
    · rw [first]
      exact within.start_boundary
    · rw [last]
      exact within.last_boundary
  | case5 offset cs c rest found start kind named content tail cut stop good tags ended scanned ih =>
    subst given
    have within : Tag.Within (before ++ cs) ⟨content, start, stop⟩ :=
      within_section before found cut rfl
    let read := before ++ (cs.takeWhile (· ≠ '<') ++ '<' :: (content ++ ['>']))
    have whole : read ++ tail = before ++ cs := by
      refine .trans ?_ (congrArg (before ++ ·) (split_section found cut).symm)
      simp [read]
    have reached : width read = stop := by
      have bracket : '<'.utf8Size = 1 ∧ '>'.utf8Size = 1 := ⟨rfl, rfl⟩
      simp only [read, stop, start, width_append, width_cons, width_nil]
      omega
    have rest := ih read reached
    rw [whole, scanned] at rest
    have here : width before ≤ start := Nat.le_add_right _ _
    split
    · exact rest.cons within here
    · exact rest.skip (here.trans within.nonempty.le)

/-- Every tag takes up its two brackets of the text. -/
theorem length_scan (offset : Nat) (cs : List Char) :
    2 * (scan offset cs).1.length ≤ cs.length := by
  fun_induction scan offset cs with
  | case1 => exact Nat.zero_le _
  | case2 => exact Nat.zero_le _
  | case3 => exact Nat.zero_le _
  | case4 => exact Nat.zero_le _
  | case5 offset cs c rest found start kind named content tail cut stop good tags ended scanned ih =>
    have lengths := congrArg List.length (split_section found cut)
    simp only [List.length_append, List.length_cons] at lengths
    have fewer : 2 * tags.length ≤ tail.length := by
      rw [scanned] at ih
      exact ih
    change 2 * (if kind = .tag then _ :: tags else tags).length ≤ cs.length
    split
    · rw [List.length_cons]
      omega
    · omega

end Scans

section Readings

variable {cs : List Char} {tag : Tag} {tags : List Tag} {fault : Fault} {ended : Option Fault}
  {opened after : List (List Char)} {events : List Event}

private theorem readAttributes_reason {total : Nat} {seen : List (List Char × Nat)}
    {reason : Reason}
    (failed : readAttributes total seen cs = .error reason) : reason ≠ .unbalancedEnd := by
  fun_induction readAttributes total seen cs with
  | case1 => contradiction
  | case2 =>
    cases failed
    exact Reason.noConfusion
  | case3 seen cs first tail start found one later space ih => exact ih failed
  | case4 =>
    cases failed
    exact Reason.noConfusion
  | case5 seen cs first tail start found one later kept value plain ih =>
    cases others : readAttributes total later found.rest with
    | error other =>
      rw [others] at failed
      exact ih (others.trans failed)
    | ok rest =>
      rw [others] at failed
      contradiction

/-- A tag that cannot be read is reported where it starts or where it ends. -/
theorem ofTag_located (failed : Event.ofTag opened tag = .error fault) :
    (fault.position = tag.start ∨ fault.position = tag.stop) ∧ fault.reason ≠ .unbalancedEnd := by
  unfold Event.ofTag at failed
  split at failed
  · split at failed
    · cases failed
      exact ⟨.inl rfl, Reason.noConfusion⟩
    · simp only at failed
      split at failed
      · contradiction
      · cases failed
        exact ⟨.inl rfl, Reason.noConfusion⟩
  · simp only at failed
    split at failed
    · next reason given =>
      cases failed
      exact ⟨.inr rfl, readAttributes_reason given⟩
    · split at failed <;> contradiction

theorem Tells.length_le (tells : Tells tag events) : events.length ≤ 2 := by
  cases tells <;> simp

private theorem Tells.stop_eq {position : Nat} (tells : Tells tag events)
    (member : .stop position ∈ events) : position = tag.stop := by
  cases tells with
  | closing => simpa using member
  | opening _ _ starts =>
    cases starts
    simp at member
  | empty _ _ starts =>
    cases starts
    simpa using member

private theorem ofTags_length (ended : Option Fault) (opened : List (List Char)) (tags : List Tag) :
    (Reading.ofTags ended opened tags).events.length ≤ 2 * tags.length := by
  induction tags generalizing opened with
  | nil => exact Nat.zero_le _
  | cons tag tags ih =>
    rw [Reading.ofTags, List.length_cons]
    cases read : Event.ofTag opened tag with
    | error fault => exact Nat.zero_le _
    | ok told =>
      have own := (ofTag_tells read).1.length_le
      have rest := ih told.2
      simp only [List.length_append]
      omega

/-- Whatever the tags of a text are read as, ends are where tags end, and what is wrong is so
at a tag or with the text itself. -/
theorem ofTags_stops {position : Nat}
    (member : .stop position ∈ (Reading.ofTags ended opened tags).events) :
    ∃ tag ∈ tags, position = tag.stop := by
  induction tags generalizing opened with
  | nil => contradiction
  | cons tag tags ih =>
    rw [Reading.ofTags] at member
    cases read : Event.ofTag opened tag with
    | error fault =>
      rw [read] at member
      contradiction
    | ok told =>
      rw [read] at member
      rcases List.mem_append.mp member with own | later
      · exact ⟨tag, List.mem_cons_self, (ofTag_tells read).1.stop_eq own⟩
      · obtain ⟨other, inside, same⟩ := ih later
        exact ⟨other, List.mem_cons_of_mem _ inside, same⟩

private theorem ofTags_sound (within : ∀ tag ∈ tags, tag.Within cs)
    (sound : ∀ fault ∈ ended, fault.Sound cs)
    (failed : (Reading.ofTags ended opened tags).fault = some fault) : fault.Sound cs := by
  induction tags generalizing opened with
  | nil => exact sound fault failed
  | cons tag tags ih =>
    rw [Reading.ofTags] at failed
    obtain ⟨here, rest⟩ := List.forall_mem_cons.mp within
    cases read : Event.ofTag opened tag with
    | error other =>
      rw [read] at failed
      obtain rfl : other = fault := Option.some.inj failed
      obtain ⟨position, reason⟩ := ofTag_located read
      refine ⟨?_, reason⟩
      rcases position with start | stop
      · rw [start]
        exact here.start_boundary
      · rw [stop]
        exact here.stop_boundary
    | ok told =>
      rw [read] at failed
      exact ih rest failed

theorem finish_sound {a : Assembly} (failed : a.finish (width cs) = .error fault) :
    fault.Sound cs := by
  obtain ⟨opened, root⟩ := a
  match opened, root with
  | inner :: opened, root =>
    cases failed
    exact ⟨boundary_width cs, Reason.noConfusion⟩
  | [], some root => contradiction
  | [], none =>
    cases failed
    exact ⟨boundary_zero cs, Reason.noConfusion⟩

theorem tree_sound {reading : Reading} (closable : Closable 0 reading.events)
    (stops : ∀ position, .stop position ∈ reading.events → Boundary cs position)
    (sound : ∀ fault ∈ reading.fault, fault.Sound cs)
    (failed : reading.tree (width cs) = .error fault) : fault.Sound cs := by
  unfold Reading.tree at failed
  cases folded : reading.events.foldlM Assembly.step {} with
  | error other =>
    rw [folded] at failed
    obtain rfl : other = fault := Except.error.inj failed
    -- What is open is ended by nothing but its own tag, so the second of two roots is at fault.
    obtain ⟨position, name, rfl, before, rest, _, _, events, _⟩ := failed_doubled closable folded
    refine ⟨stops position ?_, Reason.noConfusion⟩
    rw [events]
    exact List.mem_append_right _ List.mem_cons_self
  | ok a =>
    rw [folded] at failed
    cases ended : reading.fault with
    | some other =>
      rw [ended] at failed
      obtain rfl : other = fault := Except.error.inj failed
      exact sound other ended
    | none =>
      rw [ended] at failed
      exact finish_sound failed

theorem parse_sound {text : String} (failed : parse text = .error fault) :
    fault.Sound (withoutMark text.toList) := by
  let cs := withoutMark text.toList
  have found : Scanned cs 0 (scan 0 cs) := scan_scanned [] cs
  refine tree_sound (ofTags_closable (scan 0 cs).2 [] (scan 0 cs).1) ?_ ?_ failed
  · intro position member
    obtain ⟨tag, inside, same⟩ := ofTags_stops member
    rw [same]
    exact (found.within tag inside).stop_boundary
  · intro other wrong
    exact ofTags_sound found.within found.sound wrong

end Readings

section Messages

/-- A text that does not go on from the words that another one starts with is another one. -/
theorem append_ne (first rest : String) {other : String} (differs : ¬ first.toList <+: other.toList) :
    first ++ rest ≠ other := by
  rintro rfl
  apply differs
  rw [String.toList_append]
  exact List.prefix_append _ _

/-- What the messages start with, but for that of an end without a start. -/
def openings : List String :=
  ["syntax error: ", "ill-formed document: ", "position ",
   "Error while escaping character at range ", "at ", "invalid character reference: ",
   "unclosed element <", "document has no root element", "second root element <"]

private theorem entity_opening (fault : EntityFault) :
    ∃ first ∈ openings, ∃ rest, fault.message = first ++ rest := by
  cases fault with
  | unterminated start stop =>
    exact ⟨"Error while escaping character at range ", by simp [openings],
      range start stop ++ ": Cannot find ';' after '&'", String.append_assoc ..⟩
  | unknown start stop name =>
    refine ⟨"at ", by simp [openings], range start stop ++ (": unrecognized entity " ++ code name), ?_⟩
    change "at " ++ range start stop ++ ": unrecognized entity " ++ code name = _
    simp only [String.append_assoc]
  | reference fault => exact ⟨"invalid character reference: ", by simp [openings], _, rfl⟩

private theorem attribute_opening (fault : AttributeFault) :
    ∃ first ∈ openings, ∃ rest, fault.message = first ++ rest := by
  refine ⟨"position ", by simp [openings], ?_⟩
  cases fault <;> simp only [AttributeFault.message, AttributeFault.message.position,
    String.append_assoc] <;> exact ⟨_, rfl⟩

private theorem message_opening {reason : Reason} (other : reason ≠ .unbalancedEnd) :
    ∃ first ∈ openings, ∃ rest, reason.message = first ++ rest := by
  have broken (what close : String) :
      ∃ first ∈ openings, ∃ rest, openSection what close = first ++ rest := by
    refine ⟨"syntax error: ", by simp [openings], ?_⟩
    unfold openSection
    simp only [String.append_assoc]
    exact ⟨_, rfl⟩
  have formed (what : String) : ∃ first ∈ openings, ∃ rest, illFormed what = first ++ rest :=
    ⟨"ill-formed document: ", by simp [openings], _, rfl⟩
  cases reason with
  | unbalancedEnd => contradiction
  | unknownSection => exact ⟨"syntax error: ", by simp [openings], "unknown or missed symbol in markup", rfl⟩
  | openData | openComment | openDoctype | openInstruction | openTag => exact broken _ _
  | namelessDoctype | mismatchedEnd | strayEnd => exact formed _
  | attributes fault => exact attribute_opening fault
  | entity fault => exact entity_opening fault
  | noRoot => exact ⟨"document has no root element", by simp [openings], "", rfl⟩
  | unclosed name =>
    exact ⟨"unclosed element <", by simp [openings], name ++ ">", String.append_assoc ..⟩
  | secondRoot name =>
    exact ⟨"second root element <", by simp [openings], name ++ ">", String.append_assoc ..⟩

private theorem message_unbalanced {reason : Reason}
    (message : reason.message = "unbalanced end tag") :
    reason = .unbalancedEnd := by
  by_contra other
  obtain ⟨first, opening, rest, wording⟩ := message_opening other
  have differs : ∀ first ∈ openings, ¬ first.toList <+: "unbalanced end tag".toList := by decide
  exact append_ne first rest (differs first opening) (wording.symm.trans message)

end Messages

/-- A text is read in as many steps as it has characters at most, and where it is no document,
the fault is reported at an offset of the text between two of its characters. -/
theorem parse_located (text : String) :
    let cs := withoutMark text.toList
    let body := String.ofList cs
    (scan 0 cs).1.Pairwise (·.stop ≤ ·.start) ∧ (∀ tag ∈ (scan 0 cs).1, tag.Within cs) ∧
      (Reading.ofText cs).events.length ≤ body.length ∧
      ((∃ root, parse text = .ok root) ∨
        ∃ fault, parse text = .error fault ∧ fault.reason.message ≠ "unbalanced end tag" ∧
          fault.position ≤ body.utf8ByteSize ∧
          (⟨fault.position⟩ : String.Pos.Raw).IsValid body) := by
  intro cs body
  have found : Scanned cs 0 (scan 0 cs) := scan_scanned [] cs
  refine ⟨found.ordered, found.within, ?_, ?_⟩
  · have tags := length_scan 0 cs
    have events := ofTags_length (scan 0 cs).2 [] (scan 0 cs).1
    rw [String.length_ofList]
    exact events.trans tags
  · cases read : parse text with
    | ok root => exact .inl ⟨root, rfl⟩
    | error fault =>
      have sound : fault.Sound cs := parse_sound read
      refine .inr ⟨fault, rfl, fun message => ?_, sound.boundary.le, sound.boundary.isValid⟩
      exact sound.started (message_unbalanced message)

/-- The mark before the text is not counted, and each of its letters is two bytes. -/
example : (match parse "\uFEFF<à é='&ü;'/><ß/>" with | .ok _ => none | .error fault => some fault) =
    some ⟨15, .entity (.unknown 1 3 "ü")⟩ := by
  decide +kernel

end MapTheme.Markup
