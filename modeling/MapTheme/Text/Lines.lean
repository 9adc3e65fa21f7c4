/-! The lines of bytes. A line ends at a line feed, and a carriage return before that
is no part of it; what follows the last line feed is a line unless it is empty. -/
namespace MapTheme.Text

def lineFeed : UInt8 := 10

def carriageReturn : UInt8 := 13

/-- A line that has ended, without the carriage return that it may end in. -/
def chomp (line : List UInt8) : List UInt8 :=
  if line.getLast? = some carriageReturn then line.dropLast else line

/-- The lines of the rest of a text, in a line of which `seen` has been read, the
latest byte first. -/
def linesFrom (seen : List UInt8) : List UInt8 → List (List UInt8)
  | [] => if seen = [] then [] else [seen.reverse]
  | b :: bs =>
    if b = lineFeed then chomp seen.reverse :: linesFrom [] bs else linesFrom (b :: seen) bs

def lines (bytes : List UInt8) : List (List UInt8) := linesFrom [] bytes

def decode? (bytes : List UInt8) : Option String := String.fromUTF8? bytes.toByteArray

theorem decode?_eq_some {bytes : List UInt8} {text : String} :
    decode? bytes = some text ↔ text.toUTF8 = bytes.toByteArray := by
  rw [decode?, String.fromUTF8?]
  constructor
  · intro read
    split at read
    · rw [← Option.some.inj read]
      rfl
    · contradiction
  · intro encoded
    rw [← encoded, String.toUTF8_eq_toByteArray, dif_pos text.isValidUTF8]
    rfl

/-- Bytes that no text encodes are the ones that are not decoded. -/
theorem decode?_eq_none {bytes : List UInt8} :
    decode? bytes = none ↔ ∀ text : String, text.toUTF8 ≠ bytes.toByteArray := by
  simp only [Option.eq_none_iff_forall_ne_some, ne_eq, decode?_eq_some]

/-- What has been read of a line goes on up to the next line feed. -/
theorem linesFrom_ended {line : List UInt8} (seen rest : List UInt8) (unbroken : lineFeed ∉ line) :
    linesFrom seen (line ++ lineFeed :: rest) = chomp (seen.reverse ++ line) :: linesFrom [] rest := by
  induction line generalizing seen with
  | nil => simp [linesFrom]
  | cons b line ih =>
    rw [List.mem_cons, not_or] at unbroken
    rw [List.cons_append, linesFrom, if_neg (Ne.symm unbroken.1), ih _ unbroken.2, List.reverse_cons,
      List.append_assoc, List.singleton_append]

theorem linesFrom_last {line : List UInt8} (seen : List UInt8) (unbroken : lineFeed ∉ line) :
    linesFrom seen line = if seen.reverse ++ line = [] then [] else [seen.reverse ++ line] := by
  induction line generalizing seen with
  | nil => simp [linesFrom]
  | cons b line ih =>
    rw [List.mem_cons, not_or] at unbroken
    rw [linesFrom, if_neg (Ne.symm unbroken.1), ih _ unbroken.2, List.reverse_cons,
      List.append_assoc, List.singleton_append]

/-- Lines that have ended, and what follows the last of them. -/
theorem lines_written {ended : List (List UInt8)} {last : List UInt8}
    (whole : ∀ line ∈ ended, lineFeed ∉ line) (rest : lineFeed ∉ last) :
    lines (ended.flatMap (· ++ [lineFeed]) ++ last) =
      ended.map chomp ++ if last = [] then [] else [last] := by
  rw [lines]
  induction ended with
  | nil => exact linesFrom_last [] rest
  | cons line ended ih =>
    obtain ⟨unbroken, others⟩ := List.forall_mem_cons.mp whole
    rw [List.flatMap_cons, List.append_assoc, List.append_assoc, List.singleton_append,
      linesFrom_ended [] _ unbroken, ih others, List.map_cons]
    rfl

/-- Bytes are lines that have ended and a rest without a line feed. -/
theorem exists_written (bytes : List UInt8) : ∃ (ended : List (List UInt8)) (last : List UInt8),
    bytes = ended.flatMap (· ++ [lineFeed]) ++ last ∧ (∀ line ∈ ended, lineFeed ∉ line) ∧
      lineFeed ∉ last := by
  induction bytes with
  | nil => exact ⟨[], [], rfl, nofun, nofun⟩
  | cons b bytes ih =>
    obtain ⟨ended, last, rfl, whole, rest⟩ := ih
    by_cases feed : b = lineFeed
    · subst feed
      exact ⟨[] :: ended, last, rfl, List.forall_mem_cons.mpr ⟨nofun, whole⟩, rest⟩
    · cases ended with
      | nil => exact ⟨[], b :: last, rfl, nofun, by simp [Ne.symm feed, rest]⟩
      | cons line ended =>
        obtain ⟨unbroken, others⟩ := List.forall_mem_cons.mp whole
        exact ⟨(b :: line) :: ended, last, rfl,
          List.forall_mem_cons.mpr ⟨by simp [Ne.symm feed, unbroken], others⟩, rest⟩

end MapTheme.Text
