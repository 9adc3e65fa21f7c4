import MapTheme.Color

/-! Colors are read from six or eight digits after a number sign, and their text is what they
were read from, in lower case and without an alpha channel that makes no difference. -/
namespace MapTheme
namespace Text

/-- The number that a digit stands for, whose letter may be of either case. -/
def HexDigit (c : Char) (n : Nat) : Prop := n < 16 ∧ c.toLower = n.digitChar

private theorem hexDigit_eq_digitChar {n : Nat} (below : n < 16) : hexDigit n = n.digitChar := by
  have each : ∀ i < 16, hexDigit i = i.digitChar := by decide
  exact each n below

private theorem hexDigit_digit {n : Nat} (below : n < 16) : HexDigit (hexDigit n) n := by
  have each : ∀ i < 16, (hexDigit i).toLower = i.digitChar := by decide
  exact ⟨below, each n below⟩

private theorem hexValue?_eq_some {c : Char} {n : Nat} : hexValue? c = some n ↔ HexDigit c n := by
  constructor
  · intro read
    obtain ⟨below, same, _⟩ := List.findIdx?_eq_some_iff_getElem.mp read
    have below : n < 16 := below
    refine ⟨below, ?_⟩
    rw [← hexDigit_eq_digitChar below, hexDigit, List.getD_eq_getElem?_getD,
      List.getElem?_eq_getElem below]
    exact (beq_iff_eq.mp same).symm
  · rintro ⟨below, lower⟩
    have read := hexValue?_hexDigit below
    rw [hexValue?, (hexDigit_digit below).2] at read
    rw [hexValue?, lower, read]

/-- A byte that two digits denote. -/
def HexByte (high low : Char) (x : UInt8) : Prop :=
  ∃ h l, HexDigit high h ∧ HexDigit low l ∧ x.toNat = 16 * h + l

section
variable {high low : Char} {x : UInt8}

private theorem exists_hexByte (first : isHex high = true) (second : isHex low = true) :
    ∃ x, HexByte high low x := by
  obtain ⟨h, first⟩ := Option.isSome_iff_exists.mp first
  obtain ⟨l, second⟩ := Option.isSome_iff_exists.mp second
  have first := hexValue?_eq_some.mp first
  have second := hexValue?_eq_some.mp second
  have fits : 16 * h + l < 256 := by
    have := first.1
    have := second.1
    omega
  exact ⟨UInt8.ofNat (16 * h + l), h, l, first, second, UInt8.toNat_ofNat_of_lt' fits⟩

private theorem exists_hexByte_cons {ds : List Char} {n : Nat} (all : ds.all isHex = true)
    (length : ds.length = n + 2) :
    ∃ high low x rest, ds = high :: low :: rest ∧ HexByte high low x ∧ rest.all isHex = true ∧
      rest.length = n := by
  obtain ⟨high, ds, rfl⟩ := List.exists_cons_of_length_eq_add_one length
  obtain ⟨low, rest, rfl⟩ := List.exists_cons_of_length_eq_add_one (Nat.succ.inj length)
  rw [List.all_cons, List.all_cons, Bool.and_eq_true, Bool.and_eq_true] at all
  obtain ⟨first, second, others⟩ := all
  obtain ⟨x, byte⟩ := exists_hexByte first second
  exact ⟨high, low, x, rest, rfl, byte, others, Nat.succ.inj (Nat.succ.inj length)⟩

private theorem exists_three_hexBytes {ds : List Char} (all : ds.all isHex = true)
    (six : ds.length = 6) :
    ∃ r₁ r₂ g₁ g₂ b₁ b₂ r g b, ds = [r₁, r₂, g₁, g₂, b₁, b₂] ∧ HexByte r₁ r₂ r ∧
      HexByte g₁ g₂ g ∧ HexByte b₁ b₂ b := by
  obtain ⟨r₁, r₂, r, ds, rfl, red, all, four⟩ := exists_hexByte_cons all six
  obtain ⟨g₁, g₂, g, ds, rfl, green, all, two⟩ := exists_hexByte_cons all four
  obtain ⟨b₁, b₂, b, ds, rfl, blue, _, none⟩ := exists_hexByte_cons all two
  obtain rfl := List.length_eq_zero_iff.mp none
  exact ⟨r₁, r₂, g₁, g₂, b₁, b₂, r, g, b, rfl, red, green, blue⟩

private theorem isHex_of_hexByte (byte : HexByte high low x) :
    isHex high = true ∧ isHex low = true := by
  obtain ⟨h, l, first, second, _⟩ := byte
  rw [isHex, isHex, hexValue?_eq_some.mpr first, hexValue?_eq_some.mpr second]
  exact ⟨rfl, rfl⟩

/-- Two more digits at the end of a number are one more byte. -/
theorem hexNumber_byte (cs : List Char) (byte : HexByte high low x) :
    hexNumber (cs ++ [high, low]) = 256 * hexNumber cs + x.toNat := by
  obtain ⟨h, l, first, second, value⟩ := byte
  have split : cs ++ [high, low] = (cs ++ [high]) ++ [low] := by simp
  rw [split, hexNumber_append_singleton, hexNumber_append_singleton,
    hexValue?_eq_some.mpr first, hexValue?_eq_some.mpr second, Option.getD_some, Option.getD_some]
  omega

end
end Text

namespace Color
open Text

private theorem channel_hexByte (x : UInt8) :
    ∃ high low, channel x = [high, low] ∧ HexByte high low x := by
  have fits : x.toNat < 256 := x.toNat_lt
  refine ⟨hexDigit (x.toNat / 16 % 16), hexDigit (x.toNat % 16), rfl, x.toNat / 16 % 16,
    x.toNat % 16, ?_, ?_, by omega⟩
  · exact hexDigit_digit (Nat.mod_lt _ (by decide))
  · exact hexDigit_digit (Nat.mod_lt _ (by decide))

private theorem channel_lower {high low : Char} {x : UInt8} (byte : HexByte high low x) :
    channel x = [high.toLower, low.toLower] := by
  obtain ⟨h, l, ⟨below, first⟩, ⟨small, second⟩, value⟩ := byte
  have high : x.toNat / 16 % 16 = h := by omega
  have low : x.toNat % 16 = l := by omega
  rw [first, second, channel, hexText, hexText, hexText, high, low, hexDigit_eq_digitChar below,
    hexDigit_eq_digitChar small]
  rfl

/-- The two ways in which a color is written. -/
inductive Spelled : List Char → Color → Prop
  | short {r₁ r₂ g₁ g₂ b₁ b₂ : Char} {r g b : UInt8} (red : HexByte r₁ r₂ r)
      (green : HexByte g₁ g₂ g) (blue : HexByte b₁ b₂ b) :
      Spelled ['#', r₁, r₂, g₁, g₂, b₁, b₂] ⟨r, g, b, 255⟩
  | long {a₁ a₂ r₁ r₂ g₁ g₂ b₁ b₂ : Char} {a r g b : UInt8} (alpha : HexByte a₁ a₂ a)
      (red : HexByte r₁ r₂ r) (green : HexByte g₁ g₂ g) (blue : HexByte b₁ b₂ b) :
      Spelled ['#', a₁, a₂, r₁, r₂, g₁, g₂, b₁, b₂] ⟨r, g, b, a⟩

private theorem byteAt_add (n : Nat) (x : UInt8) : byteAt (256 * n + x.toNat) 0 = x := by
  have fits : x.toNat < 256 := x.toNat_lt
  rw [byteAt, ← UInt8.toNat_inj, UInt8.toNat_ofNat', Nat.shiftRight_zero]
  omega

private theorem byteAt_shift (n shift : Nat) (x : UInt8) :
    byteAt (256 * n + x.toNat) (8 + shift) = byteAt n shift := by
  have fits : x.toNat < 256 := x.toNat_lt
  have above : (256 * n + x.toNat) >>> 8 = n := by
    rw [Nat.shiftRight_eq_div_pow]
    omega
  rw [byteAt, Nat.shiftRight_add, above, byteAt]

private theorem byteAt_hexBytes {r₁ r₂ g₁ g₂ b₁ b₂ : Char} {r g b : UInt8} (cs : List Char)
    (red : HexByte r₁ r₂ r) (green : HexByte g₁ g₂ g) (blue : HexByte b₁ b₂ b) :
    let n := hexNumber (cs ++ [r₁, r₂, g₁, g₂, b₁, b₂])
    byteAt n 16 = r ∧ byteAt n 8 = g ∧ byteAt n 0 = b ∧ byteAt n 24 = byteAt (hexNumber cs) 0 := by
  intro n
  have value : n = 256 * (256 * (256 * hexNumber cs + r.toNat) + g.toNat) + b.toNat := by
    have first := hexNumber_byte cs red
    have second := hexNumber_byte (cs ++ [r₁, r₂]) green
    have third := hexNumber_byte (cs ++ [r₁, r₂] ++ [g₁, g₂]) blue
    rw [second, first, List.append_assoc, List.append_assoc] at third
    exact third
  -- Every byte that follows puts the ones before it eight binary digits further up.
  rw [value]
  refine ⟨?_, ?_, byteAt_add _ b, ?_⟩
  · exact (byteAt_shift _ 8 b).trans ((byteAt_shift _ 0 g).trans (byteAt_add _ r))
  · exact (byteAt_shift _ 0 b).trans (byteAt_add _ g)
  · exact (byteAt_shift _ 16 b).trans ((byteAt_shift _ 8 g).trans (byteAt_shift _ 0 r))

section
variable {text : String} {cs : List Char} {c : Color}

theorem read?_spelled (spelled : Spelled (Text.trim text.toList) c) : read? text = some c := by
  rw [read?]
  generalize Text.trim text.toList = cs at *
  cases spelled with
  | short red green blue =>
    obtain ⟨first, second, third, _⟩ := byteAt_hexBytes [] red green blue
    simp only [List.nil_append] at first second third
    simp [isHex_of_hexByte red, isHex_of_hexByte green, isHex_of_hexByte blue, first, second, third]
  | long alpha red green blue =>
    next a₁ a₂ _ _ _ _ _ _ a _ _ _ =>
    obtain ⟨first, second, third, fourth⟩ := byteAt_hexBytes [a₁, a₂] red green blue
    have front : byteAt (hexNumber [a₁, a₂]) 0 = a := by
      have value := hexNumber_byte [] alpha
      rw [List.nil_append] at value
      rw [value, byteAt_add]
    rw [front] at fourth
    simp only [List.cons_append, List.nil_append] at first second third fourth
    simp [isHex_of_hexByte alpha, isHex_of_hexByte red, isHex_of_hexByte green,
      isHex_of_hexByte blue, first, second, third, fourth]

private theorem exists_spelled (read : read? text = some c) :
    ∃ own, Spelled (Text.trim text.toList) own := by
  rw [read?] at read
  split at read
  · next ds whole =>
    split at read
    · next all =>
      rw [whole]
      split at read
      · next six =>
        obtain ⟨_, _, _, _, _, _, _, _, _, rfl, red, green, blue⟩ := exists_three_hexBytes all six
        exact ⟨_, .short red green blue⟩
      · split at read
        · next eight =>
          obtain ⟨_, _, _, ds, rfl, alpha, all, six⟩ := exists_hexByte_cons all eight
          obtain ⟨_, _, _, _, _, _, _, _, _, rfl, red, green, blue⟩ := exists_three_hexBytes all six
          exact ⟨_, .long alpha red green blue⟩
        · contradiction
    · contradiction
  · contradiction

theorem read?_eq_some : read? text = some c ↔ Spelled (Text.trim text.toList) c := by
  constructor
  · intro read
    -- The color that is spelled is read too, so it is the one that was read.
    obtain ⟨own, spelled⟩ := exists_spelled read
    obtain rfl := Option.some.inj (read.symm.trans (read?_spelled spelled))
    exact spelled
  · exact read?_spelled

/-- A text without the two digits of an alpha channel that makes no difference. -/
def shortened (cs : List Char) : List Char :=
  if cs.length = 9 ∧ ['#', 'f', 'f'] <+: cs then '#' :: cs.drop 3 else cs

private theorem channel_full {a : UInt8} : channel a = ['f', 'f'] ↔ a = 255 := by
  constructor
  · intro full
    have value := hexNumber_hexText 2 a.toNat
    have written : hexText 2 a.toNat = ['f', 'f'] := full
    have fits : a.toNat < 256 := a.toNat_lt
    have whole : hexNumber ['f', 'f'] = 255 := by decide
    rw [written, whole] at value
    rw [← UInt8.toNat_inj, ← Nat.mod_eq_of_lt fits]
    exact value.symm
  · rintro rfl
    rfl

private theorem text_unblank (c : Color) : ∀ d ∈ c.text.toList, isBlank d = false := by
  have each : ∀ i < 16, isBlank (hexDigit i) = false := by decide
  have byte (x : UInt8) : ∀ d ∈ channel x, isBlank d = false := by
    intro d member
    have written : channel x = [hexDigit (x.toNat / 16 % 16), hexDigit (x.toNat % 16)] := rfl
    simp only [written, List.mem_cons, List.not_mem_nil, or_false] at member
    rcases member with rfl | rfl <;> exact each _ (Nat.mod_lt _ (by decide))
  intro d member
  rw [Color.text, String.toList_ofList, digits] at member
  simp only [List.mem_cons, List.mem_append] at member
  rcases member with rfl | ((alpha | red) | green) | blue
  · rfl
  · split at alpha
    · exact absurd alpha List.not_mem_nil
    · exact byte _ d alpha
  · exact byte _ d red
  · exact byte _ d green
  · exact byte _ d blue

theorem text_spelled (spelled : Spelled cs c) : c.text.toList = shortened (cs.map Char.toLower) := by
  have sign : '#'.toLower = '#' := by decide
  rw [Color.text, String.toList_ofList, digits]
  cases spelled with
  | short red green blue =>
    rw [if_pos rfl, channel_lower red, channel_lower green, channel_lower blue, shortened,
      if_neg (by simp)]
    simp [sign]
  | long alpha red green blue =>
    next a₁ a₂ _ _ _ _ _ _ a _ _ _ =>
    have full : a = 255 ↔ a₁.toLower = 'f' ∧ a₂.toLower = 'f' := by
      rw [← channel_full, channel_lower alpha]
      simp
    rw [channel_lower red, channel_lower green, channel_lower blue, shortened]
    by_cases whole : a = 255
    · obtain ⟨first, second⟩ := full.mp whole
      rw [if_pos whole, if_pos (by simp [sign, first, second])]
      rfl
    · have others := (not_congr full).mp whole
      rw [if_neg whole, channel_lower alpha, if_neg (by simpa [sign, eq_comm] using others)]
      simp [sign]

theorem spelled_text (c : Color) : Spelled c.text.toList c := by
  obtain ⟨r, g, b, a⟩ := c
  obtain ⟨r₁, r₂, red, one⟩ := channel_hexByte r
  obtain ⟨g₁, g₂, green, two⟩ := channel_hexByte g
  obtain ⟨b₁, b₂, blue, three⟩ := channel_hexByte b
  obtain ⟨a₁, a₂, alpha, four⟩ := channel_hexByte a
  rw [Color.text, String.toList_ofList, digits, red, green, blue, alpha]
  split
  · next full =>
    obtain rfl : a = 255 := full
    exact .short one two three
  · exact .long four one two three

end

/-- A text is a color just where its digits make one, the text of a color is read as that color,
and it is in lower case what was read, without an alpha channel that makes no difference. -/
theorem read?_exact (text : String) (c : Color) :
    (read? text = some c ↔ Spelled (Text.trim text.toList) c) ∧
    read? c.text = some c ∧
    (read? text = some c →
      c.text.toList = shortened ((Text.trim text.toList).map Char.toLower)) := by
  refine ⟨read?_eq_some, ?_, fun read => text_spelled (read?_eq_some.mp read)⟩
  apply read?_spelled
  rw [trim, trimBoth_self (text_unblank c)]
  exact spelled_text c

/-- A color with an alpha channel that makes no difference, and white space around it. -/
theorem brick_exact :
    let brick : Color := ⟨0xa0, 0xb1, 0xc2, 255⟩
    read? " #FFa0B1c2\t" = some brick ∧
      Spelled ['#', 'F', 'F', 'a', '0', 'B', '1', 'c', '2'] brick ∧
      brick.text.toList = ['#', 'a', '0', 'b', '1', 'c', '2'] := by
  intro brick
  obtain ⟨exact, _, lower⟩ := read?_exact " #FFa0B1c2\t" brick
  have read : read? " #FFa0B1c2\t" = some brick := by decide +kernel
  have spelled := exact.mp read
  have trimmed : trim " #FFa0B1c2\t".toList = ['#', 'F', 'F', 'a', '0', 'B', '1', 'c', '2'] := by
    decide +kernel
  rw [trimmed] at spelled
  refine ⟨read, spelled, (lower read).trans ?_⟩
  rw [trimmed]
  decide +kernel

end Color
end MapTheme
