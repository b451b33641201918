import Mathlib
import OrgPipeline.Decimal.Binary

/-!
# Numbers that are finite

A number is finite unless all bits of its exponent are set. The number nearest to an
integer of 64 bits is far from that.
-/

set_option autoImplicit false

namespace OrgPipeline.Decimal

open Float.Model (UnpackedFloat Format)

def exponentField (bits : UInt64) : Nat :=
  (@UnpackedFloat.unpackExponent .binary64 bits.toBitVec).toNat

theorem exponentField_eq (bits : UInt64) : exponentField bits = bits.toNat / 2 ^ 52 % 2 ^ 11 := by
  rw [← Nat.shiftRight_eq_div_pow]
  rfl

def mantissaField (bits : UInt64) : Nat :=
  (@UnpackedFloat.unpackMantissa .binary64 bits.toBitVec).toNat

theorem mantissaField_eq (bits : UInt64) : mantissaField bits = bits.toNat % 2 ^ 52 := by
  rw [mantissaField, UnpackedFloat.unpackMantissa_def]
  simp [BitVec.extractLsb'_toNat]

def signField (bits : UInt64) : Nat :=
  (@UnpackedFloat.unpackSign .binary64 bits.toBitVec).toNat

theorem signField_eq (bits : UInt64) : signField bits = bits.toNat / 2 ^ 63 % 2 := by
  rw [signField, UnpackedFloat.unpackSign_def]
  simp [BitVec.extractLsb'_toNat, Nat.shiftRight_eq_div_pow]

theorem toBits_ofBits {bits : UInt64} (h : exponentField bits = 2047 → mantissaField bits = 0) :
    (Float.ofBits bits).toBits = bits := by
  have hnumber : ¬ @UnpackedFloat.isNaNBits .binary64 bits.toBitVec := by
    simp only [UnpackedFloat.isNaNBits, decide_eq_true_eq, not_and, not_not]
    intro hexponent
    exact BitVec.eq_of_toNat_eq (h (congrArg BitVec.toNat hexponent))
  apply UInt64.toBitVec_inj.1
  change UnpackedFloat.pack Format.binary64
    (UnpackedFloat.unpack Format.binary64 bits.toBitVec) = bits.toBitVec
  rw [UnpackedFloat.pack_unpack, if_neg hnumber]

theorem unpack_ofBits {bits : UInt64} (h : exponentField bits = 2047 → mantissaField bits = 0) :
    (Float.ofBits bits).toModel.unpack = UnpackedFloat.unpack .binary64 bits.toBitVec := by
  change UnpackedFloat.unpack .binary64 (Float.ofBits bits).toBits.toBitVec = _
  rw [toBits_ofBits h]

theorem isFinite_ofBits {bits : UInt64} (h : exponentField bits ≠ 2047) :
    (Float.ofBits bits).isFinite = true := by
  have hexponent : @UnpackedFloat.unpackExponent .binary64 bits.toBitVec ≠ -1#11 :=
    fun e => h (congrArg BitVec.toNat e)
  change (Float.ofBits bits).toModel.unpack.isFinite = true
  rw [unpack_ofBits fun he => absurd he h, UnpackedFloat.unpack]
  dsimp only
  rw [if_neg hexponent]
  split
  · split <;> rfl
  · rfl

theorem isFinite_signed (negative : Bool) {bits : Nat} (h : bits < infinityBits) :
    (signed negative bits).isFinite = true := by
  apply isFinite_ofBits
  unfold infinityBits at h
  rw [exponentField_eq]
  cases negative
  · simp only [Bool.false_eq_true, if_false, UInt64.toNat_ofNat']
    omega
  · simp only [if_true, UInt64.toNat_ofNat', signBit]
    omega

theorem roundHalfEven_le (num den : Nat) : roundHalfEven num den ≤ num / den + 1 := by
  unfold roundHalfEven
  dsimp only
  split
  · omega
  · split <;> omega

theorem inUnits_lt (num : Nat) {e : Int} (he : (Nat.log2 num : Int) - 53 ≤ e) :
    (inUnits num 1 e).1 / (inUnits num 1 e).2 < 2 ^ 54 := by
  have hlog : num < 2 ^ (Nat.log2 num + 1) := Nat.lt_log2_self
  unfold inUnits
  split
  · next hpos =>
    obtain ⟨k, rfl⟩ := Int.eq_ofNat_of_zero_le hpos
    rw [Int.toNat_natCast, Nat.one_mul]
    apply Nat.div_lt_of_lt_mul
    calc num < 2 ^ (Nat.log2 num + 1) := hlog
      _ ≤ 2 ^ (k + 54) := Nat.pow_le_pow_right (by decide) (by omega)
      _ = twoTo k * 2 ^ 54 := by rw [Nat.pow_add]; rfl
  · next hneg =>
    obtain ⟨k, rfl⟩ : ∃ k : Nat, e = -(k : Int) := ⟨(-e).toNat, by omega⟩
    rw [Int.neg_neg, Int.toNat_natCast, Nat.div_one]
    calc num * twoTo k < 2 ^ (Nat.log2 num + 1) * 2 ^ k :=
          Nat.mul_lt_mul_of_pos_right hlog (Nat.pow_pos (by decide))
      _ = 2 ^ (Nat.log2 num + 1 + k) := (Nat.pow_add ..).symm
      _ ≤ 2 ^ 54 := Nat.pow_le_pow_right (by decide) (by omega)

theorem unitExponent_bounds {num : Nat} (hnum : num ≠ 0) (h : num < 2 ^ 64) :
    (Nat.log2 num : Int) - 53 ≤ unitExponent num 1 ∧ unitExponent num 1 ≤ 11 := by
  have hlog : Nat.log2 num < 64 := (Nat.log2_lt hnum).2 h
  have hone : Nat.log2 1 = 0 := by decide
  unfold unitExponent leastExponent
  rw [hone]
  dsimp only
  split <;> omega

theorem nearestBits_lt {num : Nat} (h : num < 2 ^ 64) : nearestBits num 1 < infinityBits := by
  unfold nearestBits
  split
  · decide
  · next hnum =>
    obtain ⟨hlow, hhigh⟩ := unitExponent_bounds hnum h
    have hunits := inUnits_lt num hlow
    have hround := roundHalfEven_le (inUnits num 1 (unitExponent num 1)).1
      (inUnits num 1 (unitExponent num 1)).2
    have hexponent : (unitExponent num 1 - leastExponent).toNat ≤ 1085 := by
      unfold leastExponent
      omega
    have hscaled := Nat.mul_le_mul_right (2 ^ 52) hexponent
    have hsum : (unitExponent num 1 - leastExponent).toNat * 2 ^ 52 +
        roundHalfEven (inUnits num 1 (unitExponent num 1)).1
          (inUnits num 1 (unitExponent num 1)).2 < infinityBits := by
      unfold infinityBits
      omega
    exact Nat.lt_of_le_of_lt (Nat.min_le_left _ _) hsum

theorem isFinite_ofInt {n : Int} (h : n.natAbs < 2 ^ 64) : (ofInt n).isFinite = true :=
  isFinite_signed _ (nearestBits_lt h)

end OrgPipeline.Decimal
