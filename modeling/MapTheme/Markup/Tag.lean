import MapTheme.Markup.Malformed

/-! The sections that markup is cut into. Text runs up to the next `<`; what follows
is a tag, a comment, a piece of character data, a document type or an instruction,
and ends at the first `>` that closes a section of its kind. Only tags are kept.
Offsets count bytes. -/
namespace MapTheme.Markup

def width : List Char → Nat
  | [] => 0
  | c :: cs => c.utf8Size + width cs

@[simp] theorem width_nil : width [] = 0 := rfl

@[simp] theorem width_cons (c : Char) (cs : List Char) :
    width (c :: cs) = c.utf8Size + width cs := rfl

@[simp] theorem width_append (cs ds : List Char) : width (cs ++ ds) = width cs + width ds := by
  induction cs with
  | nil => rw [List.nil_append, width_nil, Nat.zero_add]
  | cons c cs ih => rw [List.cons_append, width_cons, width_cons, ih, Nat.add_assoc]

def isSpace (c : Char) : Bool := c = ' ' || c = '\t' || c = '\n' || c = '\r'

inductive Section where
  | data
  | comment
  | doctype
  | instruction
  | tag
deriving Repr, DecidableEq

def Section.of? : List Char → Option Section
  | '!' :: '[' :: _ => some .data
  | '!' :: '-' :: _ => some .comment
  | '!' :: 'D' :: _ => some .doctype
  | '!' :: 'd' :: _ => some .doctype
  | '!' :: _ => none
  | '?' :: _ => some .instruction
  | _ => some .tag

def openQuote (cs : List Char) : Option Char :=
  cs.foldl (fun quote c =>
    match quote with
    | none => if c = '"' ∨ c = '\'' then some c else none
    | some q => if c = q then none else some q) none

/-- Whether a `>` closes a section in which these characters were read, the latest
first. The two hyphens that end a comment are not those that start it. -/
def Section.closes : Section → List Char → Bool
  | .data, ']' :: ']' :: _ => true
  | .data, _ => false
  | .comment, '-' :: '-' :: seen => 3 ≤ seen.length
  | .comment, _ => false
  | .doctype, seen => seen.count '<' = seen.count '>'
  | .instruction, '?' :: _ => true
  | .instruction, _ => false
  | .tag, seen => openQuote seen.reverse = none

/-- The text before the first `>` that closes a section, and the text after it. -/
def cutAt (closes : List Char → Bool) (seen : List Char) :
    List Char → Option (List Char × List Char)
  | [] => none
  | c :: cs =>
    if c = '>' ∧ closes seen then some (seen.reverse, cs) else cutAt closes (c :: seen) cs

theorem cutAt_eq {closes : List Char → Bool} {seen cs content tail : List Char}
    (h : cutAt closes seen cs = some (content, tail)) :
    seen.reverse ++ cs = content ++ '>' :: tail := by
  induction cs generalizing seen with
  | nil => simp [cutAt] at h
  | cons c cs ih =>
    rw [cutAt] at h
    split at h
    · next closed =>
      simp only [Option.some.injEq, Prod.mk.injEq] at h
      rw [← h.1, ← h.2, closed.1]
    · simpa using ih h

theorem cutAt_length {closes : List Char → Bool} {cs content tail : List Char}
    (h : cutAt closes [] cs = some (content, tail)) : tail.length < cs.length := by
  have := congrArg List.length (cutAt_eq h)
  simp at this
  omega

def Section.unclosed : Section → Reason
  | .data => .openData
  | .comment => .openComment
  | .doctype => .openDoctype
  | .instruction => .openInstruction
  | .tag => .openTag

/-- What follows a word at the start of a text, letters of either case. -/
def afterWord? : List Char → List Char → Option (List Char)
  | [], cs => some cs
  | w :: ws, c :: cs => if c.toUpper = w then afterWord? ws cs else none
  | _ :: _, [] => none

def Section.fault? (start stop : Nat) (content : List Char) : Section → Option Fault
  | .data => if "![CDATA[".toList.isPrefixOf content then none else some ⟨start, .openData⟩
  | .comment => if ['!', '-', '-'].isPrefixOf content then none else some ⟨start, .openComment⟩
  | .doctype =>
    match afterWord? "!DOCTYPE".toList content with
    | none => some ⟨start, .openDoctype⟩
    | some name => if name.all isSpace then some ⟨stop - 1, .namelessDoctype⟩ else none
  | .instruction => if content.length = 1 then some ⟨start, .openInstruction⟩ else none
  | .tag => none

/-- A tag's characters between `<` and `>`, and the offsets of its `<` and after its
`>`. -/
structure Tag where
  content : List Char
  start : Nat
  stop : Nat
deriving Repr, DecidableEq

/-- The tags of a text that begins at an offset, up to its end or its first fault. -/
def scan (offset : Nat) (cs : List Char) : List Tag × Option Fault :=
  match _h : cs.dropWhile (· ≠ '<') with
  | [] => ([], none)
  | _ :: rest =>
    let start := offset + width (cs.takeWhile (· ≠ '<'))
    match Section.of? rest with
    | none => ([], some ⟨start, .unknownSection⟩)
    | some kind =>
      match _cut : cutAt kind.closes [] rest with
      | none => ([], some ⟨start, kind.unclosed⟩)
      | some (content, tail) =>
        let stop := start + width content + 2
        match kind.fault? start stop content with
        | some fault => ([], some fault)
        | none =>
          let (tags, ended) := scan stop tail
          (if kind = .tag then ⟨content, start, stop⟩ :: tags else tags, ended)
termination_by cs.length
decreasing_by
  have cut := cutAt_length _cut
  have suffix := (List.dropWhile_suffix (l := cs) (fun c => decide (c ≠ '<'))).length_le
  simp only [_h, List.length_cons] at suffix
  omega

end MapTheme.Markup
