import Mathlib
import MapTheme.Zoom

/-! Doubles are rounded to themselves. A product is rounded to the digits that a double has, so
a factor of one leaves every double as it is, the infinite ones and the one that is no number
included. -/
namespace MapTheme
namespace Rounding
open Float.Model Float.Model.UnpackedFloat

/-- The mantissas and exponents of doubles: 53 digits, or less with the least exponent. -/
structure Settled (m : Nat) (e : Int) : Prop where
  nonzero : m ≠ 0
  short : m < 2 ^ 53
  high : -1074 ≤ e
  full : 2 ^ 52 ≤ m ∨ e = -1074

variable {m : Nat} {e : Int}

private theorem Settled.log2_le (settled : Settled m e) : m.log2 ≤ 52 :=
  Nat.le_of_lt_succ ((Nat.log2_lt settled.nonzero).mpr settled.short)

private theorem Settled.log2_eq (settled : Settled m e) (full : 2 ^ 52 ≤ m) : m.log2 = 52 :=
  (Nat.log2_eq_iff settled.nonzero).mpr ⟨full, settled.short⟩

private theorem log2_mul_two_pow (nonzero : m ≠ 0) (k : Nat) : (m * 2 ^ k).log2 = m.log2 + k := by
  induction k with
  | zero => simp
  | succ k ih =>
    have left : m * 2 ^ k ≠ 0 := Nat.mul_ne_zero nonzero (Nat.two_pow_pos k).ne'
    rw [Nat.pow_succ', Nat.mul_left_comm, Nat.log2_two_mul left, ih, Nat.add_assoc]

theorem Settled.target (settled : Settled m e) (k : Nat) :
    Format.binary64.targetExponent (totalExponent (m * 2 ^ k) (e - k)) = e := by
  have least : Format.binary64.minExponent = -1074 := by decide
  have digits : Format.binary64.mantissaBits = 53 := by decide
  have bounded := settled.log2_le
  have high := settled.high
  rw [Format.targetExponent, totalExponent, log2_mul_two_pow settled.nonzero, least, digits]
  rcases settled.full with full | low
  · have exact := settled.log2_eq full
    omega
  · omega

private theorem shiftRight_exact (m k : Nat) :
    (⟨m * 2 ^ k, false, false⟩ : ExtendedMantissa) >>> k = ⟨m, false, false⟩ := by
  induction k generalizing m with
  | zero =>
    rw [Nat.pow_zero, Nat.mul_one]
    rfl
  | succ k ih =>
    have whole : m * 2 ^ (k + 1) = m * 2 * 2 ^ k := by rw [Nat.pow_succ', Nat.mul_assoc]
    show ((⟨m * 2 ^ (k + 1), false, false⟩ : ExtendedMantissa) >>> k).shiftRightOne = _
    rw [whole, ih]
    simp [ExtendedMantissa.shiftRightOne]

theorem Settled.shift (settled : Settled m e) (k : Nat) :
    shiftToTargetExponent .binary64 (m * 2 ^ k) (e - k) .exact = (⟨m, false, false⟩, e) := by
  have amount : (e - (e - k)).toNat = k := by omega
  rw [shiftToTargetExponent, settled.target, shiftToExponent, amount]
  simp only [ExtendedMantissa.ofMantissaAndAccuracy, shiftRight_exact, Int.sub_add_cancel]

theorem Settled.round (settled : Settled m e) (sign : Sign) (k : Nat) :
    roundWithAccuracy .binary64 sign (m * 2 ^ k) (e - k) .exact =
      .finite sign m e (Nat.pos_of_ne_zero settled.nonzero) := by
  -- What has been rounded is shifted a second time, by nothing here.
  have again : shiftToTargetExponent .binary64 m e .exact = (⟨m, false, false⟩, e) := by
    simpa using settled.shift 0
  rw [roundWithAccuracy, settled.shift]
  simp only [ExtendedMantissa.roundedMantissa, ExtendedMantissa.accuracy,
    Accuracy.roundToNearestEven, again]
  rw [dif_neg settled.nonzero]

private theorem toNat_one_append (bits : BitVec 52) :
    (1#1 ++ bits).toNat = 2 ^ 52 + bits.toNat := by
  rw [BitVec.toNat_append, ← Nat.shiftLeft_add_eq_or_of_lt bits.isLt, Nat.shiftLeft_eq]
  rfl

private theorem settled_unpack {bits : BitVec Format.binary64.numBits} {sign : Sign}
    {positive : 0 < m}
    (read : UnpackedFloat.unpack .binary64 bits = .finite sign m e positive) : Settled m e := by
  have bias : (Format.binary64.exponentBias : Int) = 1023 := rfl
  have short : (unpackMantissa bits).toNat < 2 ^ 52 := (unpackMantissa bits).isLt
  have whole : (1#1 ++ unpackMantissa bits).toNat = 2 ^ 52 + (unpackMantissa bits).toNat :=
    toNat_one_append _
  rw [UnpackedFloat.unpack] at read
  simp only [bias] at read
  split at read
  · split at read <;> contradiction
  split at read
  · next least =>
    split at read
    · contradiction
    · injection read with _ mantissa exponent
      have zero : (unpackExponent bits).toNat = 0 := by rw [least]; rfl
      refine ⟨positive.ne', ?_, ?_, ?_⟩ <;> omega
  · next more =>
    injection read with _ mantissa exponent
    have nonzero : (unpackExponent bits).toNat ≠ 0 := fun zero =>
      more (BitVec.eq_of_toNat_eq zero)
    refine ⟨positive.ne', ?_, ?_, ?_⟩ <;> omega

def one : UnpackedFloat := .finite .positive (2 ^ 52) (-52) (Nat.two_pow_pos 52)

private theorem mul_unit {value : UnpackedFloat}
    (settled : ∀ sign m e positive, value = .finite sign m e positive → Settled m e) :
    UnpackedFloat.mul .binary64 value one = value := by
  have signed : ∀ sign : Sign, sign * .positive = sign := by
    intro sign
    cases sign <;> rfl
  cases value with
  | infinity sign => exact congrArg UnpackedFloat.infinity (signed sign)
  | notANumber => rfl
  | zero sign => exact congrArg UnpackedFloat.zero (signed sign)
  | finite sign m e positive =>
    rw [one, UnpackedFloat.mul, signed]
    exact (settled sign m e positive rfl).round sign 52

theorem float_mul_one (x : Float) : x * 1.0 = x := by
  obtain ⟨bits, valid⟩ := x
  have unit : UnpackedFloat.mul .binary64 (UnpackedFloat.unpack .binary64 bits.toBitVec) one =
      UnpackedFloat.unpack .binary64 bits.toBitVec := by
    apply mul_unit
    intro sign m e positive read
    exact settled_unpack read
  have packed : Float.Model.pack (UnpackedFloat.unpack .binary64 bits.toBitVec) = ⟨bits, valid⟩ := by
    simp only [Float.Model.pack, pack_unpack_of_valid valid]
  calc (⟨⟨bits, valid⟩⟩ : Float) * 1.0
      = ⟨.pack (UnpackedFloat.mul .binary64 (UnpackedFloat.unpack .binary64 bits.toBitVec) one)⟩ := rfl
    _ = ⟨⟨bits, valid⟩⟩ := by rw [unit, packed]

end Rounding
end MapTheme
