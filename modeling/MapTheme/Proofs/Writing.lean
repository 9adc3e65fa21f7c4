import Mathlib.Data.List.TakeWhile
import MapTheme.Markup.Document

/-! How a tree of elements is written down. Values stand in double quotes with the five
characters that have names replaced by them, and what is read of a tag that is written
like this are the attributes that it was written with. -/
namespace MapTheme.Markup

def isNameChar (c : Char) : Bool := c.isAlphanum || c = '-' || c = '_'

/-- Letters, digits, hyphens and low lines, a letter first. -/
def isName : List Char → Bool
  | [] => false
  | c :: cs => c.isAlpha && cs.all isNameChar

/-- The name of a character that does not stand for itself in a value. -/
def entityName? : Char → Option (List Char)
  | '&' => some ['a', 'm', 'p']
  | '<' => some ['l', 't']
  | '>' => some ['g', 't']
  | '"' => some ['q', 'u', 'o', 't']
  | '\'' => some ['a', 'p', 'o', 's']
  | _ => none

def escapeChar (c : Char) : List Char :=
  match entityName? c with
  | some name => '&' :: (name ++ [';'])
  | none => [c]

def escape (cs : List Char) : List Char := cs.flatMap escapeChar

def writeAttribute (a : String × String) : List Char :=
  ' ' :: (a.1.toList ++ '=' :: '"' :: (escape a.2.toList ++ ['"']))

def writeAttributes (attributes : List (String × String)) : List Char :=
  attributes.flatMap writeAttribute

theorem writeAttributes_cons (a : String × String) (attributes : List (String × String)) :
    writeAttributes (a :: attributes) = ' ' :: (a.1.toList ++ '=' :: '"' ::
      (escape a.2.toList ++ '"' :: writeAttributes attributes)) := by
  simp [writeAttributes, writeAttribute]

/-- A start tag without its brackets. -/
def writeTag (name : String) (attributes : List (String × String)) : List Char :=
  name.toList ++ writeAttributes attributes

/-- A tag whose names are plain, and whose attributes are told apart by theirs. -/
structure PlainTag (name : String) (attributes : List (String × String)) : Prop where
  name : isName name.toList = true
  keys : ∀ a ∈ attributes, isName a.1.toList = true ∧ isNamespaceKey a.1.toList = false
  distinct : (attributes.map (·.1)).Nodup

mutual
def Plain : Element → Prop
  | ⟨name, attributes, children⟩ => PlainTag name attributes ∧ PlainAll children

def PlainAll : List Element → Prop
  | [] => True
  | e :: es => Plain e ∧ PlainAll es
end

mutual
/-- A tree with two tags for each element and nothing between them. -/
def write : Element → List Char
  | ⟨name, attributes, children⟩ =>
    '<' :: (writeTag name attributes ++ '>' ::
      (writeAll children ++ '<' :: '/' :: (name.toList ++ ['>'])))

def writeAll : List Element → List Char
  | [] => []
  | e :: es => write e ++ writeAll es
end

section Names

variable {cs : List Char} {c d : Char}

theorem isNameChar_of_isName (named : isName cs = true) : ∀ c ∈ cs, isNameChar c = true := by
  cases cs with
  | nil => exact fun _ absent => by contradiction
  | cons first rest =>
    obtain ⟨letter, others⟩ := Bool.and_eq_true_iff.mp named
    intro c member
    rcases List.mem_cons.mp member with rfl | inside
    · simp [isNameChar, Char.isAlphanum, letter]
    · exact List.all_eq_true.mp others c inside

theorem ne_of_isNameChar (inside : isNameChar c = true) (outside : isNameChar d = false) :
    c ≠ d := by
  rintro rfl
  rw [inside] at outside
  contradiction

theorem not_mem_of_isName (named : isName cs = true) (outside : isNameChar d = false) : d ∉ cs :=
  fun member => ne_of_isNameChar (isNameChar_of_isName named d member) outside rfl

theorem localName_of_isName (named : isName cs = true) : localName cs = cs := by
  have colon : cs.dropWhile (· ≠ ':') = [] := by
    rw [List.dropWhile_eq_nil_iff]
    intro c member
    have other : c ≠ ':' := ne_of_isNameChar (isNameChar_of_isName named c member) (by decide)
    exact decide_eq_true other
  rw [localName, colon]

theorem isSpace_of_isNameChar (inside : isNameChar c = true) : isSpace c = false := by
  have notIn {d : Char} (outside : isNameChar d = false) : c ≠ d := ne_of_isNameChar inside outside
  simp [isSpace, notIn (d := ' ') (by decide), notIn (d := '\t') (by decide),
    notIn (d := '\n') (by decide), notIn (d := '\r') (by decide)]

private theorem isKeyEnd_of_isNameChar (inside : isNameChar c = true) : isKeyEnd c = false := by
  have other : c ≠ '=' := ne_of_isNameChar inside (by decide)
  simp [isKeyEnd, other, isSpace_of_isNameChar inside]

theorem writeTag_cons {name : String} (named : isName name.toList = true)
    (attributes : List (String × String)) :
    ∃ c cs, isNameChar c = true ∧ writeTag name attributes = c :: cs := by
  rw [writeTag]
  generalize name.toList = letters at named
  cases letters with
  | nil => contradiction
  | cons c cs => exact ⟨c, _, isNameChar_of_isName named c List.mem_cons_self, rfl⟩

end Names

private theorem entityName?_known {c : Char} {name : List Char}
    (named : entityName? c = some name) :
    entities.lookup name = some c ∧ (∀ d ∈ name, isMark d = false) ∧
      (∀ d ∈ name, entityName? d = none) ∧ name.head? ≠ some '#' := by
  revert named
  fun_cases entityName? c <;> intro named
  case case6 => contradiction
  all_goals
    obtain rfl := Option.some.inj named
    refine ⟨by decide, ?_, ?_, by decide⟩ <;> simp [isMark, entityName?]

private theorem unescape_plain {total : Nat} {c : Char} (plain : c ≠ '&') (cs : List Char) :
    unescape total (c :: cs) = (unescape total cs).map (c :: ·) := by
  rw [unescape, if_neg plain]
  cases unescape total cs <;> rfl

private theorem unescape_entity {total : Nat} {c : Char} {name : List Char}
    (named : entityName? c = some name) (cs : List Char) :
    unescape total ('&' :: (name ++ ';' :: cs)) = (unescape total cs).map (c :: ·) := by
  obtain ⟨known, unmarked, _, hash⟩ := entityName?_known named
  have take : (name ++ ';' :: cs).takeWhile (!isMark ·) = name := by
    rw [List.takeWhile_append_of_pos (by simpa using unmarked)]
    simp [isMark]
  have drop : (name ++ ';' :: cs).dropWhile (!isMark ·) = ';' :: cs := by
    rw [List.dropWhile_append_of_pos (by simpa using unmarked)]
    simp [isMark]
  rw [unescape, if_pos rfl]
  simp only [take]
  generalize (name ++ ';' :: cs).dropWhile (!isMark ·) = left at drop
  subst drop
  split
  · next tail same =>
    obtain rfl : cs = tail := (List.cons.inj same).2
    split
    · next digits => simp at hash
    · rw [known]
      cases unescape total cs <;> rfl
  · next other => exact absurd rfl (other cs)

private theorem unescape_escape (total : Nat) (cs : List Char) :
    unescape total (escape cs) = .ok cs := by
  induction cs with
  | nil => rw [escape, List.flatMap_nil, unescape]
  | cons c cs ih =>
    rw [escape, List.flatMap_cons, escapeChar]
    cases named : entityName? c with
    | none =>
      have plain : c ≠ '&' := by
        rintro rfl
        contradiction
      show unescape total (c :: escape cs) = _
      rw [unescape_plain plain, ih]
      rfl
    | some name =>
      show unescape total ('&' :: ((name ++ [';']) ++ escape cs)) = _
      rw [List.append_assoc, List.singleton_append, unescape_entity named, ih]
      rfl

/-- Of the characters that have names only `&` is in what is written for a value. -/
theorem not_mem_escape {d : Char} (reserved : (entityName? d).isSome = true) (other : d ≠ '&')
    (cs : List Char) : d ∉ escape cs := by
  rw [escape, List.mem_flatMap]
  rintro ⟨c, _, member⟩
  have nameless : entityName? d = none := by
    rw [escapeChar] at member
    cases named : entityName? c with
    | none =>
      rw [named] at member
      rwa [List.mem_singleton.mp member]
    | some name =>
      rw [named] at member
      rcases List.mem_cons.mp member with mark | inside
      · exact absurd mark other
      · rcases List.mem_append.mp inside with letter | last
        · exact (entityName?_known named).2.2.1 d letter
        · rw [List.mem_singleton.mp last]
          rfl
  rw [nameless] at reserved
  contradiction

section Attributes

variable {total : Nat} {seen : List (List Char × Nat)} {cs tail value : List Char} {first : Char}

private theorem readValue_quoted (unquoted : '"' ∉ value) (rest : List Char) :
    readValue total ('"' :: (value ++ '"' :: rest)) = .ok (value, rest) := by
  have other : ∀ c ∈ value, decide (c ≠ '"') = true := fun c member =>
    decide_eq_true fun same => unquoted (same ▸ member)
  have start : ('"' :: (value ++ '"' :: rest)).dropWhile isSpace = '"' :: (value ++ '"' :: rest) :=
    rfl
  have drop : (value ++ '"' :: rest).dropWhile (· ≠ '"') = '"' :: rest := by
    rw [List.dropWhile_append_of_pos other]
    rfl
  have take : (value ++ '"' :: rest).takeWhile (· ≠ '"') = value := by
    rw [List.takeWhile_append_of_pos other]
    exact List.append_nil value
  simp only [readValue, start, true_or, if_true, drop, take]

private theorem readAttribute_written {key : List Char} (named : isName (first :: key) = true)
    (fresh : seen.lookup (first :: key) = none) (unquoted : '"' ∉ value) (rest : List Char) :
    readAttribute total seen first (key ++ '=' :: '"' :: (value ++ '"' :: rest)) =
      .ok ⟨first :: key, value, rest⟩ := by
  have inside : ∀ c ∈ key, (!isKeyEnd c) = true := fun c member => by
    rw [isKeyEnd_of_isNameChar (isNameChar_of_isName named c (List.mem_cons_of_mem _ member))]
    rfl
  have take : (key ++ '=' :: '"' :: (value ++ '"' :: rest)).takeWhile (!isKeyEnd ·) = key := by
    rw [List.takeWhile_append_of_pos inside]
    exact List.append_nil key
  have drop : ((key ++ '=' :: '"' :: (value ++ '"' :: rest)).dropWhile (!isKeyEnd ·)).dropWhile
      isSpace = '=' :: '"' :: (value ++ '"' :: rest) := by
    rw [List.dropWhile_append_of_pos inside]
    rfl
  simp only [readAttribute, take, drop, fresh, readValue_quoted unquoted]
  rfl

private theorem readAttributes_nil : readAttributes total seen [] = .ok [] := by
  rw [readAttributes]
  rfl

/-- Reads one attribute that declares no name space. -/
theorem readAttributes_step {found : RawAttribute} {text : List Char}
    (start : cs.dropWhile isSpace = first :: tail)
    (read : readAttribute total seen first tail = .ok found)
    (ordinary : isNamespaceKey found.key = false)
    (unescaped : unescape (width found.value) found.value = .ok text) :
    readAttributes total seen cs =
      (readAttributes total ((found.key, total - width (first :: tail)) :: seen) found.rest).map
        ((String.ofList (localName found.key), String.ofList text) :: ·) := by
  rw [readAttributes]
  generalize cs.dropWhile isSpace = left at start
  subst start
  dsimp only
  generalize readAttribute total seen first tail = result at read
  subst read
  simp only [ordinary, unescaped, Bool.false_eq_true, if_false]
  generalize readAttributes total _ found.rest = others
  cases others <;> rfl

private theorem lookup_of_ne {key other : List Char} {offset : Nat}
    (fresh : seen.lookup other = none)
    (apart : other ≠ key) : ((key, offset) :: seen).lookup other = none := by
  rw [List.lookup_cons, beq_eq_false_iff_ne.mpr apart]
  exact fresh

theorem readAttributes_written {attributes : List (String × String)}
    (plain : ∀ a ∈ attributes, isName a.1.toList = true ∧ isNamespaceKey a.1.toList = false)
    (distinct : (attributes.map (·.1)).Nodup)
    (fresh : ∀ a ∈ attributes, seen.lookup a.1.toList = none) :
    readAttributes total seen (writeAttributes attributes) = .ok attributes := by
  induction attributes generalizing seen with
  | nil => exact readAttributes_nil
  | cons a attributes ih =>
    obtain ⟨named, ordinary⟩ := plain a List.mem_cons_self
    obtain ⟨absent, others⟩ := List.nodup_cons.mp distinct
    cases key : a.1.toList with
    | nil =>
      rw [key] at named
      contradiction
    | cons first rest =>
      rw [key] at named ordinary
      have letter : isSpace first = false :=
        isSpace_of_isNameChar (isNameChar_of_isName named first List.mem_cons_self)
      let tail := rest ++ '=' :: '"' :: (escape a.2.toList ++ '"' :: writeAttributes attributes)
      have start : (writeAttributes (a :: attributes)).dropWhile isSpace = first :: tail := by
        rw [writeAttributes_cons, key]
        show (first :: tail).dropWhile isSpace = first :: tail
        rw [List.dropWhile_cons_of_neg (by rw [letter]; exact Bool.false_ne_true)]
      -- The rest is read with this name among the names seen, which no other one repeats.
      let found : RawAttribute := ⟨first :: rest, escape a.2.toList, writeAttributes attributes⟩
      let noted := (first :: rest, total - width (first :: tail)) :: seen
      have read : readAttribute total seen first tail = .ok found :=
        readAttribute_written named (key ▸ fresh a List.mem_cons_self)
          (not_mem_escape rfl (by decide) a.2.toList) (writeAttributes attributes)
      have unseen : ∀ b ∈ attributes, noted.lookup b.1.toList = none := by
        intro b member
        refine lookup_of_ne (fresh b (List.mem_cons_of_mem _ member)) fun same => absent ?_
        have twice : a.1 = b.1 := String.toList_inj.mp (key.trans same.symm)
        exact List.mem_map.mpr ⟨b, member, twice.symm⟩
      have after : readAttributes total noted (writeAttributes attributes) = .ok attributes :=
        ih (fun b member => plain b (List.mem_cons_of_mem _ member)) others unseen
      rw [readAttributes_step start read ordinary (unescape_escape _ _), after,
        localName_of_isName named, ← key, String.ofList_toList, String.ofList_toList]
      rfl

end Attributes

end MapTheme.Markup
