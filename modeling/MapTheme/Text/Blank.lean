/-! White space as Unicode's property `White_Space` draws it, and the trimming of
text at both ends. Every class of characters that the library trims or skips over
without further qualification is this one. -/
namespace MapTheme.Text

/-- The ranges of the property `White_Space`, both ends included. -/
def blankRanges : List (Nat × Nat) :=
  [(0x9, 0xD), (0x20, 0x20), (0x85, 0x85), (0xA0, 0xA0), (0x1680, 0x1680), (0x2000, 0x200A),
   (0x2028, 0x2029), (0x202F, 0x202F), (0x205F, 0x205F), (0x3000, 0x3000)]

def isBlank (c : Char) : Bool :=
  blankRanges.any fun range => range.1 ≤ c.toNat && c.toNat ≤ range.2

def trimRight (p : Char → Bool) (cs : List Char) : List Char :=
  (cs.reverse.dropWhile p).reverse

def trimBoth (p : Char → Bool) (cs : List Char) : List Char :=
  trimRight p (cs.dropWhile p)

def trim (cs : List Char) : List Char := trimBoth isBlank cs

/-- What is trimmed on the right is a run of characters of the class. -/
theorem trimRight_append (p : Char → Bool) (cs : List Char) :
    ∃ tail, cs = trimRight p cs ++ tail ∧ ∀ c ∈ tail, p c = true := by
  refine ⟨(cs.reverse.takeWhile p).reverse, ?_, ?_⟩
  · rw [trimRight, ← List.reverse_append, List.takeWhile_append_dropWhile, List.reverse_reverse]
  · intro c hc
    rw [List.mem_reverse] at hc
    exact List.all_eq_true.mp List.all_takeWhile c hc

theorem trimRight_last {p : Char → Bool} {cs : List Char} {c : Char}
    (last : (trimRight p cs).getLast? = some c) : p c = false := by
  have stop := List.head?_dropWhile_not p cs.reverse
  rw [trimRight, List.getLast?_reverse] at last
  rw [last] at stop
  simpa using stop

/-- What is left of a text without the characters of a class at its ends. -/
structure Trimmed (p : Char → Bool) (cs core : List Char) : Prop where
  ends : ∃ front back, cs = front ++ core ++ back ∧ (∀ c ∈ front, p c = true) ∧
    ∀ c ∈ back, p c = true
  first : ∀ c, core.head? = some c → p c = false
  last : ∀ c, core.getLast? = some c → p c = false

theorem trimmed_trimBoth (p : Char → Bool) (cs : List Char) : Trimmed p cs (trimBoth p cs) := by
  obtain ⟨back, rest, blank⟩ := trimRight_append p (cs.dropWhile p)
  refine ⟨⟨cs.takeWhile p, back, ?_, List.all_eq_true.mp List.all_takeWhile, blank⟩, ?_, ?_⟩
  · rw [List.append_assoc, trimBoth, ← rest, List.takeWhile_append_dropWhile]
  · intro c first
    have stop := List.head?_dropWhile_not p cs
    have same : (cs.dropWhile p).head? = some c := by
      rw [rest, List.head?_append, ← trimBoth, first, Option.some_or]
    simpa [same] using stop
  · exact fun c => trimRight_last

theorem dropWhile_run {p : Char → Bool} {run cs : List Char} (all : ∀ c ∈ run, p c = true)
    (stop : ∀ c, cs.head? = some c → p c = false) : (run ++ cs).dropWhile p = cs := by
  rw [List.dropWhile_append_of_pos all]
  cases cs with
  | nil => rfl
  | cons c cs => rw [List.dropWhile_cons, stop c rfl, if_neg Bool.false_ne_true]

/-- Trimming takes off all there is of the class at both ends, and nothing else. -/
theorem trimBoth_eq_iff {p : Char → Bool} {cs core : List Char} :
    trimBoth p cs = core ↔ Trimmed p cs core := by
  refine ⟨fun same => same ▸ trimmed_trimBoth p cs, fun trimmed => ?_⟩
  obtain ⟨⟨front, back, rfl, before, after⟩, first, last⟩ := trimmed
  have behind : ∀ c ∈ back.reverse, p c = true := fun c member =>
    after c (List.mem_reverse.mp member)
  have kept : ∀ c, core.reverse.head? = some c → p c = false := fun c head =>
    last c (by rwa [List.head?_reverse] at head)
  have right : trimRight p (core ++ back) = core := by
    rw [trimRight, List.reverse_append, dropWhile_run behind kept, List.reverse_reverse]
  cases core with
  | nil =>
    have all : ∀ c ∈ front ++ [] ++ back, p c = true := by
      simpa [or_imp, forall_and] using ⟨before, after⟩
    have nothing : (front ++ [] ++ back ++ []).dropWhile p = [] := dropWhile_run all nofun
    rw [List.append_nil] at nothing
    rw [trimBoth, nothing]
    rfl
  | cons c core =>
    have left : (front ++ (c :: core ++ back)).dropWhile p = c :: core ++ back :=
      dropWhile_run before fun _ head => first _ head
    rw [trimBoth, List.append_assoc, left, right]

theorem trim_eq_iff {cs core : List Char} : trim cs = core ↔ Trimmed isBlank cs core :=
  trimBoth_eq_iff

theorem trimBoth_self {p : Char → Bool} {cs : List Char} (none : ∀ c ∈ cs, p c = false) :
    trimBoth p cs = cs :=
  trimBoth_eq_iff.mpr ⟨⟨[], [], by simp, nofun, nofun⟩,
    fun c first => none c (List.mem_of_head? first), fun c last => none c (List.mem_of_getLast? last)⟩

end MapTheme.Text
