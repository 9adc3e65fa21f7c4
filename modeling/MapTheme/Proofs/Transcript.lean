import Mathlib.Data.List.Forall2
import MapTheme.Proofs.Bracketing

/-! What the tags of a text tell, one after the other, and so what a text is parsed into:
where nothing is wrong with its tags alone, the outcome of what they tell. -/
namespace MapTheme.Markup

def Blank (cs : List Char) : Prop := ∀ c ∈ cs, isSpace c = true

/-- Attributes as they are written: each a key, an equals sign and a value in quotes, with
any space around them. -/
inductive Attributes : List Char → List (List Char × List Char) → Prop
  | nil {gap : List Char} (blank : Blank gap) : Attributes gap []
  | cons {gap key before after value rest : List Char} {first quote : Char}
      {attributes : List (List Char × List Char)} (blank : Blank gap)
      (starts : isSpace first = false) (letters : ∀ c ∈ key, isKeyEnd c = false)
      (left : Blank before) (right : Blank after) (quotes : quote = '"' ∨ quote = '\'')
      (inside : quote ∉ value) (more : Attributes rest attributes) :
      Attributes (gap ++ first :: (key ++ (before ++ '=' ::
        (after ++ quote :: (value ++ quote :: rest))))) ((first :: key, value) :: attributes)

/-- An attribute as it is kept: its local name, and its value with all references replaced. -/
def Decodes (raw : List Char × List Char) (a : String × String) : Prop :=
  a.1 = String.ofList (localName raw.1) ∧ unescape (width raw.2) raw.2 = .ok a.2.toList

/-- A name up to the first space, and attributes that do not all have to be kept. -/
inductive Starts (content : List Char) : Event → Prop
  | intro {name rest : List Char} {raws : List (List Char × List Char)}
      {attributes : List (String × String)} (split : content = name ++ rest)
      (unbroken : ∀ c ∈ name, isSpace c = false) (ended : ∀ c ∈ rest.head?, isSpace c = true)
      (written : Attributes rest raws)
      (decoded : List.Forall₂ Decodes (raws.filter fun raw => !isNamespaceKey raw.1) attributes) :
      Starts content (.start (String.ofList (localName name)) attributes)

inductive Tells (tag : Tag) : List Event → Prop
  | closing (first : tag.content.head? = some '/') : Tells tag [.stop tag.stop]
  | opening {start : Event} (first : tag.content.head? ≠ some '/')
      (last : tag.content.getLast? ≠ some '/') (starts : Starts tag.content start) :
      Tells tag [start]
  | empty {body : List Char} {start : Event} (first : tag.content.head? ≠ some '/')
      (content : tag.content = body ++ ['/']) (starts : Starts body start) :
      Tells tag [start, .stop tag.stop]

private theorem bind_success {ε α β : Type} {first : Except ε α} {next : α → Except ε β}
    {result : β}
    (ok : (first >>= next) = .ok result) : ∃ value, first = .ok value ∧ next value = .ok result := by
  cases first with
  | error fault => contradiction
  | ok value => exact ⟨value, rfl, ok⟩

section Attributes

variable {total : Nat} {seen : List (List Char × Nat)} {cs value rest : List Char}

private theorem blank_takeWhile (cs : List Char) : Blank (cs.takeWhile isSpace) :=
  fun _ member => List.mem_takeWhile_imp member

/-- What a run of characters stops at is not of the run. -/
theorem rejected_of_dropWhile {keep : Char → Bool} {c : Char} (stop : cs.dropWhile keep = c :: rest) :
    keep c = false := by
  have nonempty : cs.dropWhile keep ≠ [] := by
    rw [stop]
    exact List.cons_ne_nil _ _
  have rejected := List.head_dropWhile_not keep nonempty
  simpa only [stop, List.head_cons] using rejected

private theorem readValue_split (read : readValue total cs = .ok (value, rest)) :
    ∃ after quote, Blank after ∧ (quote = '"' ∨ quote = '\'') ∧ quote ∉ value ∧
      cs = after ++ quote :: (value ++ quote :: rest) := by
  have whole : cs.takeWhile isSpace ++ cs.dropWhile isSpace = cs := List.takeWhile_append_dropWhile
  unfold readValue at read
  split at read
  · contradiction
  · next quote tail start =>
    split at read
    · next quotes =>
      have inner : tail.takeWhile (· ≠ quote) ++ tail.dropWhile (· ≠ quote) = tail :=
        List.takeWhile_append_dropWhile
      split at read
      · contradiction
      · next last ended close =>
        obtain ⟨rfl, rfl⟩ := Prod.mk.inj (Except.ok.inj read)
        have same : last = quote := by
          have rejected := rejected_of_dropWhile close
          simpa using rejected
        subst same
        refine ⟨cs.takeWhile isSpace, last, blank_takeWhile cs, quotes, fun member => ?_, ?_⟩
        · have other := List.mem_takeWhile_imp member
          simp at other
        · rw [close] at inner
          rw [inner, ← start, whole]
    · contradiction

private theorem readAttribute_split {first : Char} {found : RawAttribute}
    (read : readAttribute total seen first cs = .ok found) :
    ∃ key before after quote, found.key = first :: key ∧ (∀ c ∈ key, isKeyEnd c = false) ∧
      Blank before ∧ Blank after ∧ (quote = '"' ∨ quote = '\'') ∧ quote ∉ found.value ∧
      cs = key ++ (before ++ '=' :: (after ++ quote :: (found.value ++ quote :: found.rest))) := by
  let tail := cs.dropWhile (!isKeyEnd ·)
  have named : cs.takeWhile (!isKeyEnd ·) ++ tail = cs := List.takeWhile_append_dropWhile
  have spaced : tail.takeWhile isSpace ++ tail.dropWhile isSpace = tail :=
    List.takeWhile_append_dropWhile
  have letters : ∀ c ∈ cs.takeWhile (!isKeyEnd ·), isKeyEnd c = false := fun c member => by
    have letter := List.mem_takeWhile_imp member
    simpa using letter
  unfold readAttribute at read
  simp only at read
  split at read
  · next afterEquals equals =>
    cases earlier : seen.lookup (first :: cs.takeWhile (!isKeyEnd ·)) with
    | some previous => simp [earlier] at read
    | none =>
      cases valued : readValue total afterEquals with
      | error fault => simp [earlier, valued, Except.map] at read
      | ok pair =>
        obtain ⟨value, rest⟩ := pair
        simp only [earlier, valued, Except.map, Except.ok.injEq] at read
        subst read
        obtain ⟨after, quote, right, quotes, inside, same⟩ := readValue_split valued
        refine ⟨cs.takeWhile (!isKeyEnd ·), tail.takeWhile isSpace, after, quote, rfl, letters,
          blank_takeWhile tail, right, quotes, inside, ?_⟩
        rw [← same, ← equals]
        change cs = cs.takeWhile (!isKeyEnd ·) ++ (tail.takeWhile isSpace ++ tail.dropWhile isSpace)
        rw [spaced, named]
  · contradiction

theorem Attributes.add {first : Char} {found : RawAttribute}
    {raws : List (List Char × List Char)} (start : cs.dropWhile isSpace = first :: rest)
    (read : readAttribute total seen first rest = .ok found) (more : Attributes found.rest raws) :
    Attributes cs ((found.key, found.value) :: raws) := by
  obtain ⟨key, before, after, quote, named, letters, left, right, quotes, inside, same⟩ :=
    readAttribute_split read
  have whole : cs = cs.takeWhile isSpace ++ first :: rest := by
    rw [← start, List.takeWhile_append_dropWhile]
  rw [whole, same, named]
  exact .cons (blank_takeWhile cs) (rejected_of_dropWhile start) letters left right quotes inside more

/-- What is kept of attributes is what is written of them, less the names of spaces. -/
theorem readAttributes_split {es : List (String × String)}
    (read : readAttributes total seen cs = .ok es) :
    ∃ raws, Attributes cs raws ∧
      List.Forall₂ Decodes (raws.filter fun raw => !isNamespaceKey raw.1) es := by
  fun_induction readAttributes total seen cs generalizing es with
  | case1 seen cs nothing =>
    obtain rfl := Except.ok.inj read
    have whole : cs.takeWhile isSpace = cs := by
      have parts : cs.takeWhile isSpace ++ cs.dropWhile isSpace = cs :=
        List.takeWhile_append_dropWhile
      rwa [nothing, List.append_nil] at parts
    refine ⟨[], .nil ?_, .nil⟩
    rw [← whole]
    exact blank_takeWhile cs
  | case2 => contradiction
  | case3 seen cs first tail start found one later space =>
    rename_i ih
    -- The name of a space is written and not kept.
    obtain ⟨raws, more, decoded⟩ := ih read
    refine ⟨_, more.add start one, ?_⟩
    rw [List.filter_cons_of_neg (by simpa using space)]
    exact decoded
  | case4 => contradiction
  | case5 seen cs first tail start found one later kept value plain =>
    rename_i ih
    obtain ⟨rest, others, same⟩ := bind_success read
    obtain rfl := Except.ok.inj same
    obtain ⟨raws, more, decoded⟩ := ih others
    refine ⟨_, more.add start one, ?_⟩
    have decodes : Decodes (found.key, found.value)
        (String.ofList (localName found.key), String.ofList value) := by
      refine ⟨rfl, ?_⟩
      rw [plain, String.toList_ofList]
    rw [List.filter_cons_of_pos (by simpa using kept)]
    exact .cons decodes decoded

end Attributes

section Tags

variable {opened after : List (List Char)} {tag : Tag} {tags : List Tag} {events : List Event}
  {fault : Option Fault}

private theorem starts_of_readAttributes {total : Nat} {content : List Char}
    {attributes : List (String × String)}
    (read : readAttributes total [] (content.dropWhile (!isSpace ·)) = .ok attributes) :
    Starts content
      (.start (String.ofList (localName (content.takeWhile (!isSpace ·)))) attributes) := by
  obtain ⟨raws, written, decoded⟩ := readAttributes_split read
  refine .intro List.takeWhile_append_dropWhile.symm (fun c member => ?_) (fun c first => ?_)
    written decoded
  · have letter := List.mem_takeWhile_imp member
    simpa using letter
  · obtain ⟨rest, stop⟩ := List.head?_eq_some_iff.mp first
    have rejected := rejected_of_dropWhile stop
    simpa using rejected

/-- What a tag is read as is what it tells, and stops nothing that is not open. -/
theorem ofTag_tells (read : Event.ofTag opened tag = .ok (events, after)) :
    Tells tag events ∧ ∀ rest, Closable after.length rest →
      Closable opened.length (events ++ rest) := by
  unfold Event.ofTag at read
  split at read
  · next name content =>
    match opened with
    | [] => contradiction
    | expected :: opened =>
      simp only at read
      split at read
      · obtain ⟨rfl, rfl⟩ := Prod.mk.inj (Except.ok.inj read)
        refine ⟨.closing (by rw [content]; rfl), fun rest closable => ⟨Nat.succ_pos _, closable⟩⟩
      · contradiction
  · next content other =>
    have first : tag.content.head? ≠ some '/' := by
      intro slash
      obtain ⟨rest, same⟩ := List.head?_eq_some_iff.mp slash
      exact other rest same
    simp only at read
    cases given : readAttributes (width (splitSlash tag.content).1) []
        ((splitSlash tag.content).1.dropWhile (!isSpace ·)) with
    | error reason =>
      rw [given] at read
      contradiction
    | ok attributes =>
      rw [given] at read
      have starts := starts_of_readAttributes given
      by_cases last : tag.content.getLast? = some '/'
      · have cut : splitSlash tag.content = (tag.content.dropLast, true) := if_pos last
        have whole : tag.content = tag.content.dropLast ++ ['/'] :=
          (List.dropLast_append_getLast? '/' last).symm
        rw [cut] at read starts
        obtain ⟨rfl, rfl⟩ := Prod.mk.inj (Except.ok.inj read)
        exact ⟨.empty first whole starts, fun rest closable => ⟨Nat.succ_pos _, closable⟩⟩
      · have cut : splitSlash tag.content = (tag.content, false) := if_neg last
        rw [cut] at read starts
        obtain ⟨rfl, rfl⟩ := Prod.mk.inj (Except.ok.inj read)
        exact ⟨.opening first last starts, fun rest closable => closable⟩

theorem ofTags_closable (fault : Option Fault) (opened : List (List Char)) (tags : List Tag) :
    Closable opened.length (Reading.ofTags fault opened tags).events := by
  induction tags generalizing opened with
  | nil => trivial
  | cons tag tags ih =>
    rw [Reading.ofTags]
    cases read : Event.ofTag opened tag with
    | error fault => trivial
    | ok pair => exact (ofTag_tells read).2 _ (ih pair.2)

/-- A reading without a fault has what its tags tell, one after the other. -/
theorem ofTags_tells (clean : (Reading.ofTags fault opened tags).fault = none) :
    ∃ told, List.Forall₂ Tells tags told ∧
      (Reading.ofTags fault opened tags).events = told.flatten := by
  induction tags generalizing opened with
  | nil => exact ⟨[], .nil, rfl⟩
  | cons tag tags ih =>
    rw [Reading.ofTags] at clean ⊢
    cases read : Event.ofTag opened tag with
    | error fault =>
      rw [read] at clean
      contradiction
    | ok pair =>
      rw [read] at clean
      have later : (Reading.ofTags fault pair.2 tags).fault = none := clean
      obtain ⟨told, tells, same⟩ := ih later
      refine ⟨pair.1 :: told, .cons (ofTag_tells read).1 tells, ?_⟩
      rw [List.flatten_cons, ← same]

private theorem told_nothing {told : List (List Event)} (tells : List.Forall₂ Tells tags told) :
    told.flatten = [] ↔ tags = [] := by
  cases tells with
  | nil => exact ⟨fun _ => rfl, fun _ => rfl⟩
  | cons first rest => cases first <;> simp

end Tags

private theorem ne_of_first {c : Char} {first rest other : String}
    (starts : first.toList.head? = some c) (differs : other.toList.head? ≠ some c) :
    first ++ rest ≠ other := by
  rintro rfl
  apply differs
  rw [String.toList_append, List.head?_append, starts]
  rfl

/-- Where nothing is wrong with the tags of a text alone, the text is parsed into what they
come to: into the tree that they are the way around of, if there is one, and otherwise into
the first of its faults. -/
theorem parse_outcome (text : String)
    (clean : (Reading.ofText (withoutMark text.toList)).fault = none) :
    let cs := withoutMark text.toList
    let events := (Reading.ofText cs).events
    (∃ told, List.Forall₂ Tells (scan 0 cs).1 told ∧ events = told.flatten) ∧
      (∀ result, parse text = result ↔ Outcome (width cs) events result) ∧
      ((∃ fault, parse text = .error fault ∧
          fault.reason.message = "document has no root element") ↔ (scan 0 cs).1 = []) := by
  intro cs events
  have closable : Closable 0 events := ofTags_closable (scan 0 cs).2 [] (scan 0 cs).1
  have cleanTags : (Reading.ofTags (scan 0 cs).2 [] (scan 0 cs).1).fault = none := clean
  obtain ⟨told, tells, same⟩ := ofTags_tells cleanTags
  have outcome : Outcome (width cs) events (parse text) := outcome_tree clean closable (width cs)
  have unique {result : Except Fault Element} (other : Outcome (width cs) events result) :
      parse text = result := tree_of_outcome clean closable other
  refine ⟨⟨told, tells, same⟩, fun result => ⟨fun equal => equal ▸ outcome, unique⟩, ?_⟩
  rw [← told_nothing tells, ← same]
  constructor
  · rintro ⟨fault, failed, message⟩
    rw [failed] at outcome
    cases outcome with
    | @second _ name =>
      have wording : (Reason.secondRoot name).message = "second root element <" ++ (name ++ ">") :=
        String.append_assoc ..
      exact absurd (wording.symm.trans message) (ne_of_first (c := 's') rfl (by decide))
    | @unclosed _ name =>
      have wording : (Reason.unclosed name).message = "unclosed element <" ++ (name ++ ">") :=
        String.append_assoc ..
      exact absurd (wording.symm.trans message) (ne_of_first (c := 'u') rfl (by decide))
    | empty nothing => exact nothing
  · intro nothing
    exact ⟨⟨0, .noRoot⟩, unique (.empty nothing), rfl⟩

/-- A tree with a name space, and a second one before an element that stays open. -/
def strayText : String := "<m:a xmlns:m='u' m:k=\"&lt;\"><b/></m:a><c/><d>"

theorem stray_tree_told : (Reading.ofText (withoutMark strayText.toList)).fault = none ∧
    parse strayText = .error ⟨42, .secondRoot "c"⟩ := by
  have clean : (Reading.ofText (withoutMark strayText.toList)).fault = none := by decide +kernel
  let before : List Event :=
    [.start "a" [("k", "<")], .start "b" [], .stop 32, .stop 38, .start "c" []]
  have events : (Reading.ofText (withoutMark strayText.toList)).events =
      before ++ [.stop 42, .start "d" []] := by decide +kernel
  refine ⟨clean, ((parse_outcome strayText clean).2.1 _).mpr (.second ?_)⟩
  rw [events]
  exact ⟨before, [.start "d" []], ⟨"a", [("k", "<")], [⟨"b", [], []⟩]⟩, ⟨"c", [], []⟩, rfl, rfl, rfl⟩

end MapTheme.Markup
