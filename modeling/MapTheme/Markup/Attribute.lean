import MapTheme.Markup.Entity

/-! The attributes of a tag, read from the left. Keys are compared as written;
declarations of name spaces are dropped, and of other keys the part after the first
colon is kept. -/
namespace MapTheme.Markup

/-- The part of a name after its first colon. -/
def localName (name : List Char) : List Char :=
  match name.dropWhile (· ≠ ':') with
  | [] => name
  | _ :: rest => rest

def isNamespaceKey (key : List Char) : Bool := ['x', 'm', 'l', 'n', 's'].isPrefixOf key

def isKeyEnd (c : Char) : Bool := c = '=' || isSpace c

structure RawAttribute where
  key : List Char
  value : List Char
  rest : List Char
deriving Repr, DecidableEq

def readValue (total : Nat) (cs : List Char) : Except AttributeFault (List Char × List Char) :=
  match cs.dropWhile isSpace with
  | [] => .error (.expectedValue total)
  | quote :: tail =>
    if quote = '"' ∨ quote = '\'' then
      match tail.dropWhile (· ≠ quote) with
      | [] => .error (.unclosed total quote)
      | _ :: rest => .ok (tail.takeWhile (· ≠ quote), rest)
    else .error (.unquoted (total - width (quote :: tail)))

/-- Reads one attribute from text without leading space, in a tag of `total` bytes
whose earlier keys are given with their offsets. -/
def readAttribute (total : Nat) (seen : List (List Char × Nat)) (first : Char)
    (cs : List Char) : Except AttributeFault RawAttribute :=
  let key := first :: cs.takeWhile (!isKeyEnd ·)
  match (cs.dropWhile (!isKeyEnd ·)).dropWhile isSpace with
  | '=' :: afterEquals =>
    match seen.lookup key with
    | some previous => .error (.duplicate (total - width (first :: cs)) previous)
    | none => (readValue total afterEquals).map fun (value, rest) => ⟨key, value, rest⟩
  | rest => .error (.expectedEquals (total - width rest))

theorem length_dropWhile_le (p : Char → Bool) (cs : List Char) :
    (cs.dropWhile p).length ≤ cs.length := (List.dropWhile_suffix p).length_le

theorem readValue_length {total : Nat} {cs value rest : List Char}
    (h : readValue total cs = .ok (value, rest)) : rest.length < cs.length := by
  have space := length_dropWhile_le isSpace cs
  unfold readValue at h
  split at h
  · simp at h
  · next quote tail start =>
    rw [start, List.length_cons] at space
    have quoted := length_dropWhile_le (· ≠ quote) tail
    split at h
    · split at h
      · simp at h
      · next close =>
        rw [close, List.length_cons] at quoted
        simp only [Except.ok.injEq, Prod.mk.injEq] at h
        rw [← h.2]
        omega
    · simp at h

theorem readAttribute_length {total : Nat} {seen : List (List Char × Nat)} {first : Char}
    {cs : List Char} {found : RawAttribute}
    (h : readAttribute total seen first cs = .ok found) : found.rest.length < cs.length := by
  have key := length_dropWhile_le (!isKeyEnd ·) cs
  have space := length_dropWhile_le isSpace (cs.dropWhile (!isKeyEnd ·))
  unfold readAttribute at h
  simp only at h
  split at h
  · next afterEquals equals =>
    rw [equals, List.length_cons] at space
    cases hs : seen.lookup (first :: cs.takeWhile (!isKeyEnd ·)) with
    | some previous => simp [hs] at h
    | none =>
      cases hv : readValue total afterEquals with
      | error fault => simp [hs, hv, Except.map] at h
      | ok pair =>
        simp only [hs, hv, Except.map, Except.ok.injEq] at h
        have := readValue_length hv
        subst h
        simp only
        omega
  · simp at h

/-- The attributes in the rest of a tag's content. A key counts as seen even when
it only declares a name space. -/
def readAttributes (total : Nat) (seen : List (List Char × Nat)) (cs : List Char) :
    Except Reason (List (String × String)) :=
  match _h : cs.dropWhile isSpace with
  | [] => .ok []
  | first :: tail =>
    match _r : readAttribute total seen first tail with
    | .error fault => .error (.attributes fault)
    | .ok found =>
      let seen := (found.key, total - width (first :: tail)) :: seen
      if isNamespaceKey found.key then readAttributes total seen found.rest
      else
        match unescape (width found.value) found.value with
        | .error fault => .error (.entity fault)
        | .ok value => do
          let rest ← readAttributes total seen found.rest
          .ok ((String.ofList (localName found.key), String.ofList value) :: rest)
termination_by cs.length
decreasing_by
  all_goals
    have l₁ := readAttribute_length _r
    have l₂ := length_dropWhile_le isSpace cs
    rw [_h, List.length_cons] at l₂
    omega

end MapTheme.Markup
