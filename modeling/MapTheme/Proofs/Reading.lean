import MapTheme.Feature

/-! What is read of the lines that describe features. The blank ones are passed over, and each
other one is a feature, so that what has been read tells nothing of any other text. The first
line that is neither ends the reading, and its number counts the blank lines before it. All of
this is so whatever the texts are that describe a feature. -/
namespace MapTheme

variable {α : Type}

/-- Whether a line holds more than white space. -/
def Text.speaks (line : List UInt8) : Bool :=
  (decode? line).any fun text => trim text.toList ≠ []

def Text.described? (describe? : String → Option α) (line : List UInt8) : Option α :=
  (decode? line).bind describe?

def Descriptor.ofLine? (line : List UInt8) : Option Descriptor := Text.described? ofText? line

namespace Text
variable {describe? : String → Option α} {number : Nat} {line : List UInt8}
  {lines : List (List UInt8)} {e : FeatureError}

/-- Reading succeeds where every line is text and every line that is not blank describes a
feature, and yields these features in order, none of them lost. -/
theorem readDescribed_eq_ok {ds : List α} :
    readDescribed describe? number lines = .ok ds ↔
      (∀ line ∈ lines, (decode? line).isSome = true) ∧
        (lines.filter speaks).map (described? describe?) = ds.map some := by
  induction lines generalizing number ds with
  | nil => cases ds <;> simp [readDescribed]
  | cons line lines ih =>
    rw [readDescribed, List.forall_mem_cons, List.filter_cons]
    cases decoded : decode? line with
    | none => simp
    | some text =>
      by_cases blank : trim text.toList = []
      · have silent : speaks line = false := by simp [speaks, decoded, blank]
        simp [silent, blank, ih]
      · have speaks : speaks line = true := by simp [speaks, decoded, blank]
        have described : described? describe? line = describe? text := by
          simp [described?, decoded]
        simp only [speaks, blank, if_true, if_false, List.map_cons, described]
        cases describe? text with
        | none => cases ds <;> simp
        | some d =>
          dsimp only
          cases ds with
          | nil => cases readDescribed describe? (number + 1) lines <;> simp [Except.map]
          | cons first rest =>
            have tail : (readDescribed describe? (number + 1) lines).map (d :: ·) =
                .ok (first :: rest) ↔ d = first ∧ readDescribed describe? (number + 1) lines = .ok rest := by
              cases readDescribed describe? (number + 1) lines <;> simp [Except.map]
            simp [tail, ih, and_left_comm]

variable (describe?) in
/-- A line that can be used is text, and is blank or describes a feature. -/
def Usable (line : List UInt8) : Prop :=
  (decode? line).isSome = true ∧ (speaks line = true → (described? describe? line).isSome = true)

/-- What is told of a line that cannot be used and has a number. -/
inductive Tells (describe? : String → Option α) (number : Nat) (line : List UInt8) :
    FeatureError → Prop
  | undecodable (unread : decode? line = none) : Tells describe? number line .undecodable
  | invalid (speaking : speaks line = true) (undescribed : described? describe? line = none) :
      Tells describe? number line (.invalid number)

private theorem told_of_unusable (number : Nat) (unusable : ¬ Usable describe? line) :
    ∃ e, Tells describe? number line e := by
  cases decoded : decode? line with
  | none => exact ⟨_, .undecodable decoded⟩
  | some text =>
    simp only [Usable, decoded, Option.isSome_some, true_and, Classical.not_imp,
      Bool.not_eq_true, Option.isSome_eq_false_iff, Option.isNone_iff_eq_none] at unusable
    exact ⟨_, .invalid unusable.1 unusable.2⟩

private theorem not_usable (tells : Tells describe? number line e) : ¬ Usable describe? line := by
  rintro ⟨read, described⟩
  cases tells with
  | undecodable unread => simp [unread] at read
  | invalid speaking undescribed => simp [undescribed] at described; simp [speaking] at described

theorem readDescribed_told (tells : Tells describe? number line e) :
    readDescribed describe? number (line :: lines) = .error e := by
  rw [readDescribed]
  cases tells with
  | undecodable unread => rw [unread]
  | invalid speaking undescribed =>
    cases decoded : decode? line with
    | none => simp [speaks, decoded] at speaking
    | some text =>
      have written : trim text.toList ≠ [] := by simpa [speaks, decoded] using speaking
      have unread : describe? text = none := by simpa [described?, decoded] using undescribed
      simp [written, unread]

theorem readDescribed_usable (usable : Usable describe? line) :
    readDescribed describe? number (line :: lines) = .error e ↔
      readDescribed describe? (number + 1) lines = .error e := by
  rw [readDescribed]
  obtain ⟨read, described⟩ := usable
  obtain ⟨text, decoded⟩ := Option.isSome_iff_exists.mp read
  rw [decoded]
  dsimp only
  split
  · rfl
  · next written =>
    have speaking : speaks line = true := by simpa [speaks, decoded] using written
    obtain ⟨d, own⟩ := Option.isSome_iff_exists.mp (described speaking)
    have own : describe? text = some d := by simpa [described?, decoded] using own
    rw [own]
    cases readDescribed describe? (number + 1) lines <;> simp [Except.map]

/-- Reading fails at the first line that cannot be used, with what is told of that line. -/
theorem readDescribed_eq_error :
    readDescribed describe? number lines = .error e ↔
      ∃ before line after, lines = before ++ line :: after ∧
        (∀ earlier ∈ before, Usable describe? earlier) ∧
        Tells describe? (number + before.length) line e := by
  induction lines generalizing number with
  | nil => simp [readDescribed]
  | cons line lines ih =>
    by_cases usable : Usable describe? line
    · rw [readDescribed_usable usable, ih]
      constructor
      · rintro ⟨before, bad, after, rfl, usables, tells⟩
        refine ⟨line :: before, bad, after, rfl, List.forall_mem_cons.mpr ⟨usable, usables⟩, ?_⟩
        rwa [List.length_cons, Nat.add_comm before.length, ← Nat.add_assoc]
      · rintro ⟨before, bad, after, cut, usables, tells⟩
        cases before with
        | nil =>
          obtain ⟨rfl, rfl⟩ := List.cons.inj cut
          exact absurd usable (not_usable tells)
        | cons first before =>
          obtain ⟨rfl, rfl⟩ := List.cons.inj cut
          refine ⟨before, bad, after, rfl, (List.forall_mem_cons.mp usables).2, ?_⟩
          rwa [List.length_cons, Nat.add_comm before.length, ← Nat.add_assoc] at tells
    · constructor
      · intro failed
        obtain ⟨cause, tells⟩ := told_of_unusable number usable
        have ended : readDescribed describe? number (line :: lines) = .error cause :=
          readDescribed_told tells
        obtain rfl := Except.error.inj (ended.symm.trans failed)
        exact ⟨[], line, lines, rfl, nofun, tells⟩
      · rintro ⟨before, bad, after, cut, usables, tells⟩
        cases before with
        | nil =>
          obtain ⟨rfl, rfl⟩ := List.cons.inj cut
          exact readDescribed_told tells
        | cons first before =>
          obtain ⟨rfl, rfl⟩ := List.cons.inj cut
          exact absurd (usables _ (List.mem_cons_self)) usable

private theorem usable_of_ok {ds : List α} (read : readDescribed describe? number lines = .ok ds) :
    ∀ line ∈ lines, Usable describe? line := by
  obtain ⟨decoded, described⟩ := readDescribed_eq_ok.mp read
  intro line member
  refine ⟨decoded line member, fun speaking => ?_⟩
  have own : described? describe? line ∈ ds.map some := by
    rw [← described]
    exact List.mem_map_of_mem (List.mem_filter.mpr ⟨member, speaking⟩)
  obtain ⟨d, _, same⟩ := List.mem_map.mp own
  rw [← same, Option.isSome_some]

end Text

/-- Of the lines of any bytes each one that is not blank is read, in order, or the first of those
that cannot be used is told of: by its number among all lines, if it is text at all. -/
theorem readFeatures_stops (describe? : String → Option α) (bytes : List UInt8) :
    (∃ (ended : List (List UInt8)) (last : List UInt8),
      bytes = ended.flatMap (· ++ [Text.lineFeed]) ++ last ∧
        (∀ line ∈ ended, Text.lineFeed ∉ line) ∧ Text.lineFeed ∉ last ∧
        Text.lines bytes = ended.map Text.chomp ++ if last = [] then [] else [last]) ∧
      ((∃ e, readFeatures describe? bytes = .error e) ↔
        ∃ row ∈ Text.lines bytes, Text.decode? row = none ∨
          Text.speaks row = true ∧ Text.described? describe? row = none) ∧
      (∀ e, readFeatures describe? bytes = .error e ↔
        ∃ before row after, Text.lines bytes = before ++ row :: after ∧
          (∀ earlier ∈ before, Text.Usable describe? earlier) ∧
          Text.Tells describe? (before.length + 1) row e) ∧
      ∀ ds, readFeatures describe? bytes = .ok ds ↔
        (∀ row ∈ Text.lines bytes, Text.Usable describe? row) ∧
        ((Text.lines bytes).filter Text.speaks).map (Text.described? describe?) = ds.map some := by
  refine ⟨?_, ?_, fun e => ?_, fun ds => ?_⟩
  · obtain ⟨ended, last, whole, unbroken, rest⟩ := Text.exists_written bytes
    refine ⟨ended, last, whole, unbroken, rest, ?_⟩
    rw [← Text.lines_written unbroken rest, ← whole]
  · constructor
    · rintro ⟨e, failed⟩
      obtain ⟨before, row, after, cut, _, tells⟩ := Text.readDescribed_eq_error.mp failed
      refine ⟨row, by simp [cut], ?_⟩
      cases tells with
      | undecodable unread => exact .inl unread
      | invalid speaking undescribed => exact .inr ⟨speaking, undescribed⟩
    · rintro ⟨row, member, unusable⟩
      cases read : readFeatures describe? bytes with
      | error e => exact ⟨e, rfl⟩
      | ok ds =>
        obtain ⟨decoded, described⟩ := Text.usable_of_ok read row member
        rcases unusable with unread | ⟨speaking, undescribed⟩
        · simp [unread] at decoded
        · simp [undescribed, speaking] at described
  · rw [readFeatures, Text.readDescribed_eq_error]
    simp only [Nat.add_comm 1]
  · constructor
    · intro read
      exact ⟨Text.usable_of_ok read, (Text.readDescribed_eq_ok.mp read).2⟩
    · rintro ⟨usable, described⟩
      exact Text.readDescribed_eq_ok.mpr ⟨fun row member => (usable row member).1, described⟩

end MapTheme
