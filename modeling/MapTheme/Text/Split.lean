/-! Cutting text at a separator. A text with `n` separators has `n + 1` pieces, so
the empty text has one, and the pieces joined by the separator are the text again. -/
namespace MapTheme.Text

def split (separator : Char) : List Char → List (List Char)
  | [] => [[]]
  | c :: cs =>
    if c = separator then [] :: split separator cs
    else match split separator cs with
      | [] => [[c]]
      | piece :: pieces => (c :: piece) :: pieces

def join (separator : Char) : List (List Char) → List Char
  | [] => []
  | [piece] => piece
  | piece :: pieces => piece ++ separator :: join separator pieces

def splitText (separator : Char) (text : String) : List String :=
  (split separator text.toList).map String.ofList

theorem split_ne_nil (separator : Char) (cs : List Char) : split separator cs ≠ [] := by
  induction cs with
  | nil => simp [split]
  | cons c cs _ =>
    rw [split]
    split
    · simp
    · split <;> simp

theorem join_split (separator : Char) (cs : List Char) :
    join separator (split separator cs) = cs := by
  induction cs with
  | nil => rfl
  | cons c cs ih =>
    rw [split]
    split
    · next h =>
      cases hs : split separator cs with
      | nil => exact absurd hs (split_ne_nil _ _)
      | cons piece pieces => rw [hs] at ih; simp [join, ih, h]
    · cases hs : split separator cs with
      | nil => exact absurd hs (split_ne_nil _ _)
      | cons piece pieces =>
        rw [hs] at ih
        cases pieces with
        | nil => simpa [join] using ih
        | cons next rest => simpa [join] using ih

theorem split_append (separator : Char) (cs ds : List Char) :
    split separator (cs ++ separator :: ds) = split separator cs ++ split separator ds := by
  induction cs with
  | nil => simp [split]
  | cons c cs ih =>
    rw [List.cons_append, split, split, ih]
    split
    · rfl
    · cases hs : split separator cs with
      | nil => exact absurd hs (split_ne_nil _ _)
      | cons piece pieces => rfl

theorem not_mem_of_mem_split {separator : Char} {cs piece : List Char}
    (h : piece ∈ split separator cs) : separator ∉ piece := by
  induction cs generalizing piece with
  | nil => simp_all [split]
  | cons c cs ih =>
    rw [split] at h
    split at h
    · rcases List.mem_cons.mp h with rfl | h
      · simp
      · exact ih h
    · next hc =>
      cases hs : split separator cs with
      | nil => exact absurd hs (split_ne_nil _ _)
      | cons first rest =>
        simp only [hs] at h
        rcases List.mem_cons.mp h with rfl | h
        · have : separator ∉ first := ih (by simp [hs])
          simp [Ne.symm hc, this]
        · exact ih (by simp [hs, h])

end MapTheme.Text
