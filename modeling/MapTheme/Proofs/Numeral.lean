import MapTheme.Decimal.Literal

/-! The grammar of literals, and that the reader of literals reads just these. A literal ends
where a character follows that is part of none, so the reader that takes the longest literal
from the start of a text takes the same one whatever comes after that character. -/
namespace MapTheme.Decimal

def Digits (ds : List Char) : Prop := ds ≠ [] ∧ ∀ d ∈ ds, d.isDigit = true

inductive Signed : Bool → List Char → Prop
  | absent : Signed false []
  | plus : Signed false ['+']
  | minus : Signed true ['-']

/-- The digits before and after the point, on one side of it at least. -/
inductive Mantissa : List Char → List Char → List Char → Prop
  | whole {ds : List Char} (digits : Digits ds) : Mantissa ds [] ds
  | pointed {ds fraction : List Char} (digits : Digits ds)
      (more : ∀ d ∈ fraction, d.isDigit = true) : Mantissa ds fraction (ds ++ '.' :: fraction)
  | fraction {ds : List Char} (digits : Digits ds) : Mantissa [] ds ('.' :: ds)

inductive Exponent : Int → List Char → Prop
  | absent : Exponent 0 []
  | present {mark : Char} {negative : Bool} {sign ds : List Char} (marked : mark = 'e' ∨ mark = 'E')
      (signed : Signed negative sign) (digits : Digits ds) :
      Exponent (if negative then -(digitsValue ds : Int) else digitsValue ds) (mark :: (sign ++ ds))

/-- What a text denotes that is a literal as a whole. Letters may be of either case, and only the
value that is no number has no sign. -/
inductive Denotes : List Char → Literal → Prop
  | finite {negative : Bool} {exponent : Int} {sign whole fraction mantissa power : List Char}
      (signed : Signed negative sign) (digits : Mantissa whole fraction mantissa)
      (raised : Exponent exponent power) :
      Denotes (sign ++ (mantissa ++ power))
        (.finite negative (digitsValue (whole ++ fraction)) (exponent - fraction.length))
  | infinite {negative : Bool} {sign name : List Char} (signed : Signed negative sign)
      (named : name.map Char.toLower = ['i', 'n', 'f'] ∨
        name.map Char.toLower = ['i', 'n', 'f', 'i', 'n', 'i', 't', 'y']) :
      Denotes (sign ++ name) (.infinite negative)
  | nan {name : List Char} (named : name.map Char.toLower = ['n', 'a', 'n']) : Denotes name .nan

section Parts
variable {c : Char} {cs ds rest tail word : List Char} {negative : Bool} {exponent : Int}

private theorem takeWhile_stop {p : Char → Bool} (cs : List Char) (stop : p c = false) :
    (cs ++ c :: rest).takeWhile p = cs.takeWhile p := by
  induction cs with
  | nil => simp [stop]
  | cons d cs ih => by_cases h : p d = true <;> simp [h, ih]

theorem dropWhile_stop {p : Char → Bool} (cs : List Char) (stop : p c = false) :
    (cs ++ c :: rest).dropWhile p = cs.dropWhile p ++ c :: rest := by
  induction cs with
  | nil => simp [stop]
  | cons d cs ih => by_cases h : p d = true <;> simp [h, ih]

/-- Text that does not go on with a digit. -/
def Ended (rest : List Char) : Prop := ∀ c ∈ rest.head?, c.isDigit = false

private theorem ended_cons (noDigit : c.isDigit = false) (rest : List Char) :
    Ended (c :: rest) := by
  intro d first
  obtain rfl : c = d := Option.some.inj first
  exact noDigit

private theorem digits_ended (digits : ∀ d ∈ ds, d.isDigit = true) (ended : Ended rest) :
    (ds ++ rest).takeWhile Char.isDigit = ds ∧ (ds ++ rest).dropWhile Char.isDigit = rest := by
  rw [List.takeWhile_append_of_pos digits, List.dropWhile_append_of_pos digits]
  cases rest with
  | nil => simp
  | cons c rest => simp [ended c rfl]

private theorem sign_signed (cs : List Char) :
    ∃ sign, Signed (Decimal.sign cs).1 sign ∧ cs = sign ++ (Decimal.sign cs).2 := by
  unfold Decimal.sign
  split
  · exact ⟨_, .minus, rfl⟩
  · exact ⟨_, .plus, rfl⟩
  · exact ⟨_, .absent, rfl⟩

private theorem sign_append {sign body : List Char} (signed : Signed negative sign)
    (unsigned : ∀ c ∈ body.head?, c ≠ '+' ∧ c ≠ '-') :
    Decimal.sign (sign ++ body) = (negative, body) := by
  cases signed with
  | plus => rfl
  | minus => rfl
  | absent =>
    cases body with
    | nil => rfl
    | cons c body =>
      obtain ⟨plus, minus⟩ := unsigned c rfl
      rw [List.nil_append, Decimal.sign] <;> simp_all

private theorem afterWord_eq_some : afterWord word cs = some tail ↔
    ∃ name, name.map Char.toLower = word ∧ cs = name ++ tail := by
  induction word generalizing cs with
  | nil => simp [afterWord, eq_comm]
  | cons w word ih =>
    cases cs with
    | nil =>
      refine ⟨nofun, fun ⟨name, named, cut⟩ => ?_⟩
      obtain ⟨rfl, _⟩ := List.append_eq_nil_iff.mp cut.symm
      contradiction
    | cons c cs =>
      rw [afterWord]
      constructor
      · intro found
        split at found
        · next same =>
          obtain ⟨name, named, cut⟩ := ih.mp found
          exact ⟨c :: name, by rw [List.map_cons, same, named], by rw [cut, List.cons_append]⟩
        · contradiction
      · rintro ⟨name, named, cut⟩
        cases name with
        | nil => simp at named
        | cons n name =>
          obtain ⟨rfl, rfl⟩ := List.cons.inj cut
          obtain ⟨same, named⟩ := List.cons.inj named
          rw [if_pos same]
          exact ih.mpr ⟨name, named, rfl⟩

private theorem scanExponent_reads (read : scanExponent cs = some (exponent, rest)) :
    ∃ power, Exponent exponent power ∧ cs = power ++ rest := by
  cases cs with
  | nil =>
    obtain ⟨rfl, rfl⟩ : (0 : Int) = exponent ∧ [] = rest := by simpa [scanExponent] using read
    exact ⟨[], .absent, rfl⟩
  | cons c cs =>
    rw [scanExponent] at read
    split at read
    · next marked =>
      obtain ⟨sign, signed, cut⟩ := sign_signed cs
      generalize Decimal.sign cs = read_sign at *
      obtain ⟨negative, body⟩ := read_sign
      dsimp only at read signed cut
      split at read
      · contradiction
      · next some =>
        obtain ⟨rfl, rfl⟩ := Prod.mk.inj (Option.some.inj read)
        refine ⟨_, .present marked signed ⟨some, List.all_eq_true.mp List.all_takeWhile⟩, ?_⟩
        rw [cut, List.cons_append, List.append_assoc, List.takeWhile_append_dropWhile]
    · obtain ⟨rfl, rfl⟩ := Prod.mk.inj (Option.some.inj read)
      exact ⟨[], .absent, rfl⟩

/-- What digits on both sides of the point come to with the exponent that follows on them. -/
def raised? (negative : Bool) (whole fraction rest : List Char) : Option (Literal × List Char) :=
  if whole = [] ∧ fraction = [] then none
  else (scanExponent rest).map fun (exponent, rest) =>
    (.finite negative (digitsValue (whole ++ fraction)) (exponent - fraction.length), rest)

private theorem scanFinite_pointed (digits : ∀ d ∈ ds, d.isDigit = true) (tail : List Char) :
    scanFinite negative (ds ++ '.' :: tail) =
      raised? negative ds (tail.takeWhile Char.isDigit) (tail.dropWhile Char.isDigit) := by
  have ended : Ended ('.' :: tail) := ended_cons (by decide) tail
  obtain ⟨whole, others⟩ := digits_ended digits ended
  simp only [scanFinite, whole, others, raised?]

private theorem scanFinite_whole (digits : ∀ d ∈ ds, d.isDigit = true) (ended : Ended rest)
    (unpointed : rest.head? ≠ some '.') :
    scanFinite negative (ds ++ rest) = raised? negative ds [] rest := by
  obtain ⟨whole, others⟩ := digits_ended digits ended
  unfold scanFinite
  simp only [whole, others]
  split
  · exact absurd rfl unpointed
  · rfl

private theorem raised?_eq_some {whole fraction : List Char} {l : Literal} :
    raised? negative whole fraction cs = some (l, rest) ↔ (whole ≠ [] ∨ fraction ≠ []) ∧
      ∃ exponent, scanExponent cs = some (exponent, rest) ∧
        l = .finite negative (digitsValue (whole ++ fraction)) (exponent - fraction.length) := by
  rw [raised?]
  split
  · next none => simp [none.1, none.2]
  · next some =>
    rw [Option.map_eq_some_iff]
    constructor
    · rintro ⟨⟨exponent, after⟩, scanned, same⟩
      obtain ⟨rfl, rfl⟩ := Prod.mk.inj same
      exact ⟨Classical.not_and_iff_not_or_not.mp some, exponent, scanned, rfl⟩
    · rintro ⟨_, exponent, scanned, rfl⟩
      exact ⟨(exponent, rest), scanned, rfl⟩

private theorem exists_digits (cs : List Char) :
    ∃ ds rest, cs = ds ++ rest ∧ (∀ d ∈ ds, d.isDigit = true) ∧ Ended rest := by
  refine ⟨cs.takeWhile Char.isDigit, cs.dropWhile Char.isDigit,
    List.takeWhile_append_dropWhile.symm, List.all_eq_true.mp List.all_takeWhile, ?_⟩
  intro c first
  have stop := List.head?_dropWhile_not Char.isDigit cs
  rw [Option.mem_def.mp first] at stop
  simpa using stop

private theorem scanFinite_reads {l : Literal} (read : scanFinite negative cs = some (l, rest)) :
    ∃ whole fraction mantissa exponent power, Mantissa whole fraction mantissa ∧
      Exponent exponent power ∧ cs = mantissa ++ (power ++ rest) ∧
      l = .finite negative (digitsValue (whole ++ fraction)) (exponent - fraction.length) := by
  obtain ⟨ds, body, rfl, digits, ended⟩ := exists_digits cs
  by_cases pointed : body.head? = some '.'
  · obtain ⟨tail, rfl⟩ := List.head?_eq_some_iff.mp pointed
    rw [scanFinite_pointed digits] at read
    obtain ⟨some, exponent, raised, rfl⟩ := raised?_eq_some.mp read
    obtain ⟨power, own, cut⟩ := scanExponent_reads raised
    have more : ∀ d ∈ tail.takeWhile Char.isDigit, d.isDigit = true :=
      List.all_eq_true.mp List.all_takeWhile
    refine ⟨ds, tail.takeWhile Char.isDigit, ds ++ '.' :: tail.takeWhile Char.isDigit, exponent,
      power, ?_, own, ?_, rfl⟩
    · -- Without digits before the point there are some after it.
      by_cases bare : ds = []
      · subst bare
        exact .fraction ⟨some.resolve_left (absurd rfl), more⟩
      · exact .pointed ⟨bare, digits⟩ more
    · rw [← cut, List.append_assoc, List.cons_append, List.takeWhile_append_dropWhile]
  · rw [scanFinite_whole digits ended pointed] at read
    obtain ⟨some, exponent, raised, rfl⟩ := raised?_eq_some.mp read
    obtain ⟨power, own, rfl⟩ := scanExponent_reads raised
    exact ⟨ds, [], ds, exponent, power, .whole ⟨some.resolve_right (absurd rfl), digits⟩, own, rfl, rfl⟩

/-- What is read at the start of a text is a literal of the grammar, unless it is the value that
is no number, which is read with a sign as well. -/
theorem scan_split {l : Literal} (read : scan cs = some (l, rest)) :
    ∃ text, cs = text ++ rest ∧ (l ≠ .nan → Denotes text l) := by
  -- The sign is taken off first, then a name is looked for and digits only where there is none.
  obtain ⟨sign, signed, cut⟩ := sign_signed cs
  unfold scan at read
  generalize Decimal.sign cs = begun at *
  obtain ⟨negative, body⟩ := begun
  dsimp only at read signed cut
  split at read
  · next found =>
    obtain ⟨rfl, rfl⟩ := Prod.mk.inj (Option.some.inj read)
    obtain ⟨name, named, rfl⟩ := afterWord_eq_some.mp found
    exact ⟨sign ++ name, by rw [cut, List.append_assoc], fun _ => .infinite signed (.inr named)⟩
  · next found =>
    obtain ⟨rfl, rfl⟩ := Prod.mk.inj (Option.some.inj read)
    obtain ⟨name, named, rfl⟩ := afterWord_eq_some.mp found
    exact ⟨sign ++ name, by rw [cut, List.append_assoc], fun _ => .infinite signed (.inl named)⟩
  · next found =>
    obtain ⟨rfl, rfl⟩ := Prod.mk.inj (Option.some.inj read)
    obtain ⟨name, named, rfl⟩ := afterWord_eq_some.mp found
    exact ⟨sign ++ name, by rw [cut, List.append_assoc], absurd rfl⟩
  · obtain ⟨whole, fraction, mantissa, exponent, power, digits, raised, rfl, rfl⟩ :=
      scanFinite_reads read
    refine ⟨sign ++ (mantissa ++ power), ?_, fun _ => .finite signed digits raised⟩
    rw [cut, List.append_assoc, List.append_assoc]

private theorem exponent_first (raised : Exponent exponent cs) :
    Ended cs ∧ cs.head? ≠ some '.' := by
  cases raised with
  | absent => exact ⟨nofun, nofun⟩
  | present marked =>
    rcases marked with rfl | rfl <;> exact ⟨ended_cons (by decide) _, by simp⟩

private theorem scanExponent_raised (raised : Exponent exponent cs) :
    scanExponent cs = some (exponent, []) := by
  cases raised with
  | absent => rfl
  | present marked signed digits =>
    next negative sign ds =>
    have unsigned : ∀ c ∈ ds.head?, c ≠ '+' ∧ c ≠ '-' := by
      intro c first
      have digit := digits.2 c (List.mem_of_mem_head? first)
      constructor <;> rintro rfl <;> contradiction
    have nothing : Ended [] := nofun
    have ended := digits_ended digits.2 nothing
    rw [List.append_nil] at ended
    rw [scanExponent, if_pos marked, sign_append signed unsigned]
    simp only [ended, digits.1, if_false]

private theorem mantissa_first {whole fraction : List Char} (digits : Mantissa whole fraction cs) :
    ∃ c tail, cs = c :: tail ∧ (c.isDigit = true ∨ c = '.') := by
  have first {ds : List Char} (digits : Digits ds) : ∃ c tail, ds = c :: tail ∧ c.isDigit = true := by
    obtain ⟨some, each⟩ := digits
    cases ds with
    | nil => contradiction
    | cons c ds => exact ⟨c, ds, rfl, each c List.mem_cons_self⟩
  cases digits with
  | whole digits =>
    obtain ⟨c, tail, same, digit⟩ := first digits
    exact ⟨c, tail, same, .inl digit⟩
  | pointed digits =>
    obtain ⟨c, tail, same, digit⟩ := first digits
    exact ⟨c, _, by rw [same, List.cons_append], .inl digit⟩
  | fraction => exact ⟨'.', _, rfl, .inr rfl⟩

private theorem scanFinite_raised {whole fraction mantissa : List Char}
    (digits : Mantissa whole fraction mantissa) (raised : Exponent exponent cs) :
    scanFinite negative (mantissa ++ cs) = some
      (.finite negative (digitsValue (whole ++ fraction)) (exponent - fraction.length), []) := by
  obtain ⟨ended, unpointed⟩ := exponent_first raised
  have scanned := scanExponent_raised raised
  cases digits with
  | whole digits =>
    rw [scanFinite_whole digits.2 ended unpointed]
    exact raised?_eq_some.mpr ⟨.inl digits.1, exponent, scanned, rfl⟩
  | pointed digits more =>
    obtain ⟨inside, after⟩ := digits_ended more ended
    rw [List.append_assoc, List.cons_append, scanFinite_pointed digits.2, inside, after]
    exact raised?_eq_some.mpr ⟨.inl digits.1, exponent, scanned, rfl⟩
  | fraction digits =>
    obtain ⟨inside, after⟩ := digits_ended digits.2 ended
    have nothing : ∀ d ∈ ([] : List Char), d.isDigit = true := nofun
    have bare : scanFinite negative ('.' :: (fraction ++ cs)) = _ :=
      scanFinite_pointed nothing (fraction ++ cs)
    rw [List.cons_append, bare, inside, after]
    exact raised?_eq_some.mpr ⟨.inr digits.1, exponent, scanned, rfl⟩

/-- Where a text starts as a number does, no name and no sign is read. -/
theorem digit_or_point {c : Char} (first : c.isDigit = true ∨ c = '.') :
    c ≠ '+' ∧ c ≠ '-' ∧ c.toLower ≠ 'i' ∧ c.toLower ≠ 'n' := by
  -- Digits and the point are among the first 58 characters, which are few enough to go through.
  have each : ∀ n < 58, (Char.ofNat n).isDigit = true ∨ Char.ofNat n = '.' →
      Char.ofNat n ≠ '+' ∧ Char.ofNat n ≠ '-' ∧ (Char.ofNat n).toLower ≠ 'i' ∧
        (Char.ofNat n).toLower ≠ 'n' := by
    decide
  have low : c.toNat < 58 := by
    rcases first with digit | rfl
    · rw [Char.isDigit, Bool.and_eq_true, decide_eq_true_eq, decide_eq_true_eq] at digit
      exact Nat.lt_succ_of_le (UInt32.le_iff_toNat_le.mp digit.2)
    · decide
  have here := each c.toNat low
  rw [Char.ofNat_toNat] at here
  exact here first

private theorem afterWord_first {c w : Char} (other : c.toLower ≠ w) :
    afterWord (w :: word) (c :: cs) = none := by
  rw [afterWord, if_neg other]

section Names
variable {name : List Char}

private theorem afterWord_named (named : name.map Char.toLower = word) :
    afterWord word name = some [] :=
  afterWord_eq_some.mpr ⟨name, named, (List.append_nil _).symm⟩

private theorem afterWord_other {wanted : List Char} (named : name.map Char.toLower = word)
    (other : ¬ wanted <+: word) : afterWord wanted name = none := by
  rw [Option.eq_none_iff_forall_ne_some]
  intro tail found
  obtain ⟨whole, same, rfl⟩ := afterWord_eq_some.mp found
  apply other
  rw [← named, List.map_append, same]
  exact List.prefix_append _ _

private theorem name_unsigned (named : name.map Char.toLower = word)
    (letter : ∀ c ∈ word.head?, c ≠ '+' ∧ c ≠ '-') : ∀ c ∈ name.head?, c ≠ '+' ∧ c ≠ '-' := by
  intro c first
  have lower : word.head? = some c.toLower := by
    rw [← named, List.head?_map, Option.mem_def.mp first, Option.map_some]
  obtain ⟨plus, minus⟩ := letter _ lower
  constructor <;> rintro rfl <;> contradiction

end Names

theorem scan_denoted {l : Literal} (denoted : Denotes cs l) : scan cs = some (l, []) := by
  cases denoted with
  | finite signed digits raised =>
    next negative exponent sign whole fraction mantissa power =>
    obtain ⟨c, tail, start, first⟩ := mantissa_first digits
    obtain ⟨plus, minus, i, n⟩ := digit_or_point first
    have unsigned : ∀ c ∈ (mantissa ++ power).head?, c ≠ '+' ∧ c ≠ '-' := by
      simp [start, plus, minus]
    have finite : scanFinite negative (mantissa ++ power) = _ := scanFinite_raised digits raised
    rw [scan, sign_append signed unsigned]
    dsimp only
    rw [finite, start, List.cons_append, afterWord_first i, afterWord_first i, afterWord_first n]
  | infinite signed named =>
    next negative sign name =>
    have unsigned : ∀ c ∈ name.head?, c ≠ '+' ∧ c ≠ '-' := by
      rcases named with named | named <;> exact name_unsigned named (by simp)
    rw [scan, sign_append signed unsigned]
    dsimp only
    rcases named with short | long
    · rw [afterWord_other short (by decide), afterWord_named short]
    · rw [afterWord_named long]
  | nan named =>
    have bare := sign_append .absent (name_unsigned named (by simp))
    rw [List.nil_append] at bare
    rw [scan, bare]
    dsimp only
    rw [afterWord_other named (by decide), afterWord_other named (by decide),
      afterWord_named named]

theorem read?_eq_some {l : Literal} : read? cs = some l ↔ scan cs = some (l, []) := by
  rw [read?]
  constructor
  · intro read
    split at read
    · next scanned => rw [scanned, Option.some.inj read]
    · contradiction
  · intro scanned
    rw [scanned]

/-- A text that is read as a number is a literal of the grammar, and each of these is read. -/
theorem read?_denoted {l : Literal} (number : l ≠ .nan) : read? cs = some l ↔ Denotes cs l := by
  rw [read?_eq_some]
  constructor
  · intro scanned
    obtain ⟨text, rfl, denoted⟩ := scan_split scanned
    rw [List.append_nil]
    exact denoted number
  · exact scan_denoted

end Parts

/-- A character that is part of no literal. -/
structure Stops (c : Char) : Prop where
  noDigit : c.isDigit = false
  noMark : c ∉ ['+', '-', '.', 'e', 'E']
  noLetter : c.toLower ∉ ['i', 'n', 'f', 't', 'y', 'a']

section Stopping
variable {c : Char} {rest : List Char} (stops : Stops c)
include stops

private theorem sign_stop (cs : List Char) :
    Decimal.sign (cs ++ c :: rest) = ((Decimal.sign cs).1, (Decimal.sign cs).2 ++ c :: rest) := by
  have noMark := stops.noMark
  simp only [List.mem_cons, not_or] at noMark
  cases cs with
  | nil => rw [List.nil_append, Decimal.sign] <;> simp_all [Decimal.sign]
  | cons d cs =>
    unfold Decimal.sign
    split <;> simp_all

private theorem afterWord_stop {word : List Char}
    (letters : ∀ w ∈ word, w ∈ ['i', 'n', 'f', 't', 'y', 'a'])
    (cs : List Char) : afterWord word (cs ++ c :: rest) = (afterWord word cs).map (· ++ c :: rest) := by
  induction word generalizing cs with
  | nil => rfl
  | cons w word ih =>
    obtain ⟨letter, others⟩ := List.forall_mem_cons.mp letters
    cases cs with
    | nil =>
      have other : c.toLower ≠ w := fun same => stops.noLetter (same ▸ letter)
      exact afterWord_first other
    | cons d cs =>
      rw [List.cons_append, afterWord, afterWord]
      split
      · exact ih others cs
      · rfl

private theorem scanExponent_stop (cs : List Char) :
    scanExponent (cs ++ c :: rest) = (scanExponent cs).map fun (e, after) => (e, after ++ c :: rest) := by
  have noMark := stops.noMark
  simp only [List.mem_cons, not_or] at noMark
  cases cs with
  | nil => simp [scanExponent, noMark]
  | cons d cs =>
    rw [List.cons_append, scanExponent, scanExponent]
    split
    · rw [sign_stop stops]
      dsimp only
      rw [takeWhile_stop _ stops.noDigit, dropWhile_stop _ stops.noDigit]
      split <;> rfl
    · rfl

private theorem raised?_stop (negative : Bool) (whole fraction cs : List Char) :
    raised? negative whole fraction (cs ++ c :: rest) =
      (raised? negative whole fraction cs).map fun (l, after) => (l, after ++ c :: rest) := by
  rw [raised?, raised?, scanExponent_stop stops]
  split
  · rfl
  · cases scanExponent cs <;> rfl

private theorem scanFinite_stop (negative : Bool) (cs : List Char) :
    scanFinite negative (cs ++ c :: rest) =
      (scanFinite negative cs).map fun (l, after) => (l, after ++ c :: rest) := by
  obtain ⟨ds, body, rfl, digits, ended⟩ := exists_digits cs
  rw [List.append_assoc]
  by_cases pointed : body.head? = some '.'
  · obtain ⟨tail, rfl⟩ := List.head?_eq_some_iff.mp pointed
    rw [List.cons_append, scanFinite_pointed digits, scanFinite_pointed digits,
      takeWhile_stop _ stops.noDigit, dropWhile_stop _ stops.noDigit, raised?_stop stops]
  · have next : Ended (body ++ c :: rest) ∧ (body ++ c :: rest).head? ≠ some '.' := by
      cases body with
      | nil => simpa [Ended, stops.noDigit] using fun same => stops.noMark (by simp [same])
      | cons d body => exact ⟨ended, pointed⟩
    rw [scanFinite_whole digits next.1 next.2, scanFinite_whole digits ended pointed,
      raised?_stop stops]

/-- What comes after a character that is part of no literal is not read. -/
theorem scan_stop (cs : List Char) :
    scan (cs ++ c :: rest) = (scan cs).map fun (l, after) => (l, after ++ c :: rest) := by
  rw [scan, scan, sign_stop stops]
  generalize Decimal.sign cs = begun
  obtain ⟨negative, body⟩ := begun
  dsimp only
  rw [afterWord_stop stops (by simp), afterWord_stop stops (by simp),
    afterWord_stop stops (by simp), scanFinite_stop stops]
  cases afterWord ['i', 'n', 'f', 'i', 'n', 'i', 't', 'y'] body with
  | some tail => rfl
  | none =>
    cases afterWord ['i', 'n', 'f'] body with
    | some tail => rfl
    | none => cases afterWord ['n', 'a', 'n'] body <;> rfl

end Stopping
end MapTheme.Decimal
