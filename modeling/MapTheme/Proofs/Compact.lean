import MapTheme.Run

/-! The compact text of a value stays on one line, whatever strings it holds: a control
character is written as an escape, and nothing else that is written is one. So texts that are
written line by line can be told apart again. -/
namespace MapTheme.Text

/-- No character of a text is a control character of ASCII, a line break among them. -/
def OneLine (cs : List Char) : Prop := ∀ c ∈ cs, 0x20 ≤ c.toNat

@[simp] theorem oneLine_nil : OneLine [] := nofun

@[simp] theorem oneLine_cons {c : Char} {cs : List Char} :
    OneLine (c :: cs) ↔ 0x20 ≤ c.toNat ∧ OneLine cs :=
  List.forall_mem_cons

@[simp] theorem oneLine_append {cs ds : List Char} :
    OneLine (cs ++ ds) ↔ OneLine cs ∧ OneLine ds :=
  List.forall_mem_append

private theorem oneLine_flatMap {α : Type} {f : α → List Char} (each : ∀ a, OneLine (f a))
    (items : List α) : OneLine (items.flatMap f) := by
  intro c member
  obtain ⟨a, _, inside⟩ := List.mem_flatMap.mp member
  exact each a c inside

private theorem oneLine_toDigits (n : Nat) : OneLine (Nat.toDigits 10 n) := by
  intro c member
  have digit := Nat.isDigit_of_mem_toDigits (by decide) (by decide) member
  rw [Char.isDigit, Bool.and_eq_true, decide_eq_true_eq] at digit
  have low : '0'.toNat ≤ c.toNat := digit.1
  exact Nat.le_trans (by decide) low

private theorem oneLine_hexText (width n : Nat) : OneLine (hexText width n) := by
  induction width generalizing n with
  | zero => exact oneLine_nil
  | succ width ih =>
    have digits : ∀ i < 16, 0x20 ≤ (hexDigit i).toNat := by decide
    have last : 0x20 ≤ (hexDigit (n % 16)).toNat := digits _ (Nat.mod_lt n (by decide))
    simp [hexText, ih, last]

end MapTheme.Text

namespace MapTheme.Decimal
open Text

variable {layout : Layout}

private theorem oneLine_zeros (n : Int) : OneLine (zeros n) := by
  intro c member
  rw [List.eq_of_mem_replicate member]
  decide

private theorem oneLine_write (digits : Nat) (exponent : Int) :
    OneLine (layout.write digits exponent) := by
  have ds := oneLine_toDigits digits
  have part (n : Nat) : OneLine ((Nat.toDigits 10 digits).take n) ∧
      OneLine ((Nat.toDigits 10 digits).drop n) := by
    rwa [← oneLine_append, List.take_append_drop]
  unfold Layout.write
  generalize Nat.toDigits 10 digits = written at ds part
  dsimp only
  split
  · split
    · split <;> simp [ds, oneLine_zeros]
    · split
      · simp [List.splitAt_eq, part]
      · simp [ds, oneLine_zeros]
  · have sign (p : Prop) [Decidable p] : 0x20 ≤ (if p then '-' else '+').toNat := by
      split <;> decide
    rcases written with _ | ⟨d, _ | ⟨e, rest⟩⟩ <;> simp_all [oneLine_toDigits]

theorem oneLine_text {x : Float} {text : String} (written : layout.text? x = some text) :
    OneLine text.toList := by
  have mark (p : Prop) [Decidable p] : OneLine (if p then [] else ['-']) := by split <;> simp
  have fraction (b : Bool) : OneLine (if b then ['.', '0'] else []) := by cases b <;> simp
  simp only [Layout.text?] at written
  split at written
  · contradiction
  · split at written
    · obtain rfl := Option.some.inj written
      simp [mark, fraction]
    · obtain rfl := Option.some.inj written
      simp [mark, oneLine_write]

end MapTheme.Decimal

namespace MapTheme.Json
open Text

private theorem oneLine_escape (c : Char) : OneLine (escape c) := by
  rw [escape]
  cases found : shortEscapes.lookup c with
  | some e =>
    have letters : ∀ pair ∈ shortEscapes, 0x20 ≤ pair.2.toNat := by decide
    obtain ⟨before, after, listed, _⟩ := List.lookup_eq_some_iff.mp found
    have letter : 0x20 ≤ e.toNat := letters (c, e) (by simp [listed])
    simp [letter]
  | none =>
    dsimp only
    split
    · simp [oneLine_hexText]
    · next seen => simp; omega

private theorem oneLine_quote (text : String) : OneLine (quote text).toList := by
  simp [quote, oneLine_flatMap oneLine_escape]

private theorem oneLine_commas {texts : List String} (each : ∀ text ∈ texts, OneLine text.toList) :
    OneLine (commas texts).toList := by
  rw [commas, String.toList_intercalate]
  induction texts with
  | nil => exact oneLine_nil
  | cons text texts ih =>
    obtain ⟨first, rest⟩ := List.forall_mem_cons.mp each
    cases texts with
    | nil => simpa using first
    | cons next texts =>
      have joined := ih rest
      simp_all [List.intercalate]

private theorem oneLine_int (n : Int) : OneLine (toString n).toList := by
  cases n with
  | ofNat n => simpa [Int.toString_eq_repr, Int.repr] using oneLine_toDigits n
  | negSucc n => simpa [Int.toString_eq_repr, Int.repr] using oneLine_toDigits (n + 1)

mutual
theorem oneLine_text : (value : Json) → OneLine value.text.toList
  | .null => by simp [text]
  | .bool value => by cases value <;> simp [text]
  | .int value => oneLine_int value
  | .float value => by
    rw [text]
    cases written : Decimal.reportLayout.text? value with
    | none => simp
    | some digits => exact Decimal.oneLine_text written
  | .string value => oneLine_quote value
  | .array items => by
    simp [text, oneLine_commas (oneLine_texts items)]
  | .object members => by
    simp [text, oneLine_commas (oneLine_memberTexts members)]

private theorem oneLine_texts : (items : List Json) → ∀ text ∈ texts items, OneLine text.toList
  | [] => nofun
  | item :: items => by
    rw [texts, List.forall_mem_cons]
    exact ⟨oneLine_text item, oneLine_texts items⟩

private theorem oneLine_memberTexts : (members : List (String × Json)) →
    ∀ text ∈ memberTexts members, OneLine text.toList
  | [] => nofun
  | (key, value) :: members => by
    rw [memberTexts, List.forall_mem_cons]
    refine ⟨?_, oneLine_memberTexts members⟩
    simp [oneLine_quote, oneLine_text value]
end

end MapTheme.Json

namespace MapTheme.Text

private theorem toList_loop (bytes : ByteArray) (i : Nat) (seen : List UInt8) :
    ByteArray.toList.loop bytes i seen = seen.reverse ++ bytes.data.toList.drop i := by
  fun_induction ByteArray.toList.loop bytes i seen with
  | case1 i seen inside ih =>
    have within : i < bytes.data.toList.length := by simpa using inside
    have here : bytes.get! i = bytes.data.toList[i] := by
      simp [ByteArray.get!, inside]
    rw [ih, List.drop_eq_getElem_cons within, here]
    simp
  | case2 i seen outside =>
    rw [List.drop_eq_nil_of_le (by simpa using Nat.le_of_not_lt outside), List.append_nil]

/-- The bytes of a text are those of its characters. -/
theorem toUTF8_toList (text : String) :
    text.toUTF8.toList = text.toList.flatMap String.utf8EncodeChar := by
  have bytes : text.toUTF8 = text.toList.utf8Encode := by
    rw [String.utf8Encode_toList, String.toUTF8_eq_toByteArray]
  rw [bytes, ByteArray.toList, toList_loop]
  simp [List.utf8Encode]

/-- No byte of a character is a control character, unless the character is one. -/
theorem seen_utf8EncodeChar {c : Char} (seen : 0x20 ≤ c.toNat) :
    ∀ b ∈ String.utf8EncodeChar c, 0x20 ≤ b.toNat := by
  have value : c.val.toNat = c.toNat := rfl
  fun_cases String.utf8EncodeChar c <;> simp [UInt8.toNat_ofNat'] <;> omega

private theorem seen_toUTF8 {text : String} (whole : OneLine text.toList) :
    ∀ b ∈ text.toUTF8.toList, 0x20 ≤ b.toNat := by
  intro b member
  rw [toUTF8_toList] at member
  obtain ⟨c, inside, encoded⟩ := List.mem_flatMap.mp member
  exact seen_utf8EncodeChar (whole c inside) b encoded

private theorem chomp_seen {line : List UInt8} (seen : ∀ b ∈ line, 0x20 ≤ b.toNat) :
    chomp line = line := by
  rw [chomp, if_neg]
  intro last
  have low := seen _ (List.mem_of_getLast? last)
  contradiction

end MapTheme.Text

namespace MapTheme.CommandLine
open Text

/-- Texts of one line each are the lines of what they are written to. -/
theorem lines_bytesOf {texts : List String} (whole : ∀ text ∈ texts, OneLine text.toList) :
    Text.lines (bytesOf texts) = texts.map (·.toUTF8.toList) := by
  have seen : ∀ line ∈ texts.map (·.toUTF8.toList), ∀ b ∈ line, 0x20 ≤ b.toNat := by
    intro line member
    obtain ⟨text, inside, rfl⟩ := List.mem_map.mp member
    exact seen_toUTF8 (whole text inside)
  have unbroken : ∀ line ∈ texts.map (·.toUTF8.toList), lineFeed ∉ line := by
    intro line member feed
    have low := seen line member _ feed
    contradiction
  have written : bytesOf texts =
      (texts.map (·.toUTF8.toList)).flatMap (· ++ [lineFeed]) ++ [] := by
    rw [bytesOf, List.flatMap_map, List.append_nil]
  rw [written, lines_written unbroken List.not_mem_nil, if_pos rfl, List.append_nil]
  exact (List.map_congr_left fun line member => chomp_seen (seen line member)).trans
    (List.map_id' _)

end MapTheme.CommandLine
