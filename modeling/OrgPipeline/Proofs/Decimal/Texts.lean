import OrgPipeline.Proofs.Decimal.Layout
import OrgPipeline.Proofs.Json.Literal

/-!
# The texts of one number

A number has a text as JSON and one as a parameter. With a fraction they agree only where
the shortest decimal ends after the point; an integer keeps its digits as a parameter
unless its shortest decimal has lost some of them.
-/

set_option autoImplicit false

namespace OrgPipeline.Decimal

open Float.Model (UnpackedFloat Format)

theorem toBits_signed (negative : Bool) {bits : Nat} (h : bits ≤ infinityBits) :
    (signed negative bits).toBits.toNat = if negative then bits + signBit else bits := by
  unfold infinityBits at h
  have hsmall : bits < signBit := by
    unfold signBit
    omega
  have hbits := toNat_signed negative hsmall
  rw [signed]
  generalize UInt64.ofNat _ = b at hbits ⊢
  rw [toBits_ofBits, hbits]
  rw [exponentField_eq, mantissaField_eq, hbits, signBit]
  split <;> omega

theorem isNegative_signed (negative : Bool) {bits : Nat} (h : bits ≤ infinityBits) :
    isNegative (signed negative bits) = negative := by
  rw [isNegative, toBits_signed negative h]
  unfold infinityBits at h
  unfold signBit
  cases negative with
  | false =>
    simp only [Bool.false_eq_true, if_false, decide_eq_false_iff_not]
    omega
  | true =>
    simp only [if_true, decide_eq_true_eq]
    omega

theorem stands_zero_of_mantissa {x : Float} (h : (Binary.ofFloat x).mantissa = 0) :
    Stands x 0 := by
  unfold Binary.ofFloat Binary.ofBits mantissaBits twoTo at h
  dsimp only at h
  split at h
  · next hfield =>
    have hexponent : exponentField x.toBits = 0 := by
      rw [exponentField_eq]
      exact hfield
    have hmantissa : mantissaField x.toBits = 0 := by
      rw [mantissaField_eq]
      exact h
    have he : @UnpackedFloat.unpackExponent .binary64 x.toBits.toBitVec = 0#11 :=
      BitVec.eq_of_toNat_eq hexponent
    have hm : @UnpackedFloat.unpackMantissa .binary64 x.toBits.toBitVec = 0#52 :=
      BitVec.eq_of_toNat_eq hmantissa
    refine stands_zero_iff.2 ⟨.ofBitVec (@UnpackedFloat.unpackSign .binary64 x.toBits.toBitVec), ?_⟩
    change UnpackedFloat.unpack .binary64 x.toBits.toBitVec = _
    rw [UnpackedFloat.unpack]
    dsimp only
    rw [if_neg (by rw [he]; decide), if_pos he, dif_pos hm]
  · exact absurd (Nat.add_eq_zero_iff.1 h).2 (by decide)

theorem isNaN_isInf_of_finite {x : Float} (h : x.isFinite = true) :
    x.isNaN = false ∧ x.isInf = false := by
  change UnpackedFloat.isFinite x.toModel.unpack = true at h
  change UnpackedFloat.isNaN x.toModel.unpack = false ∧
    UnpackedFloat.isInf x.toModel.unpack = false
  cases hx : x.toModel.unpack with
  | infinity s => rw [hx] at h; cases h
  | notANumber => rw [hx] at h; cases h
  | zero s => exact ⟨rfl, rfl⟩
  | finite s m e hm => exact ⟨rfl, rfl⟩

theorem text_of_finite {x : Float} (h : x.isFinite = true) (l : Layout) :
    (l.text x).toList = (if isNegative x then ['-'] else []) ++ l.magnitude (.ofFloat x) := by
  obtain ⟨hnan, hinf⟩ := isNaN_isInf_of_finite h
  rw [Layout.text, hnan, hinf]
  exact String.toList_ofList

theorem text_zero_ne {x : Float} (h : Stands x 0) : jsonLayout.text x ≠ "0" := by
  rcases eq_of_stands_zero h with rfl | rfl
  · decide +kernel
  · decide +kernel

theorem jsonText_eq_numberText_iff {x : Float} (h : x.isFinite = true) :
    jsonLayout.text x = Param.numberText x ↔ ¬ Stands x 0 ∧ SameText (.ofFloat x) := by
  unfold Param.numberText
  split
  · next hzero => exact iff_of_false (text_zero_ne hzero) fun hsame => hsame.1 hzero
  · next hzero =>
    have hmantissa : (Binary.ofFloat x).mantissa ≠ 0 := fun hm =>
      hzero (stands_zero_of_mantissa hm)
    rw [← String.toList_inj, text_of_finite h, text_of_finite h, List.append_cancel_left_eq,
      magnitude_eq_iff hmantissa]
    exact (and_iff_right hzero).symm

theorem toList_toString (n : Int) :
    (toString n).toList = (if n < 0 then ['-'] else []) ++ digitsOf n.natAbs := by
  obtain ⟨m, rfl | rfl⟩ := n.eq_nat_or_neg
  · rw [Json.toList_toString_nat, if_neg (by omega), Int.natAbs_natCast]
    rfl
  · rcases Nat.eq_zero_or_pos m with rfl | hm
    · rfl
    · rw [Json.toList_toString_neg (by omega), if_pos (by omega), Int.natAbs_neg,
        Int.natAbs_natCast]
      rfl

def SameInteger (n : Int) : Prop :=
  ∃ k : Nat, (shortest true (.ofFloat (ofInt n))).exponent = k ∧
    (shortest true (.ofFloat (ofInt n))).coefficient * 10 ^ k = n.natAbs

theorem le_nearestBits {n : Nat} (h : n ≠ 0) : 2 ^ 52 ≤ nearestBits n 1 := by
  rcases Nat.lt_or_ge n (2 ^ 53) with hn | hn
  · rw [nearestBits_whole (by omega) hn]
    omega
  · have := le_nearestBits_large hn
    omega

theorem not_stands_zero_ofInt {n : Int} (h : n ≠ 0) : ¬ Stands (ofInt n) 0 := by
  intro hzero
  have hbits := toBits_signed (n < 0) (nearestBits_le n.natAbs 1)
  have hlow := le_nearestBits (n := n.natAbs) (by omega)
  have hhigh := nearestBits_le n.natAbs 1
  have hzeros : (ofInt n).toBits.toNat = 0 ∨ (ofInt n).toBits.toNat = signBit := by
    rcases eq_of_stands_zero hzero with heq | heq <;> rw [heq]
    · exact Or.inl rfl
    · exact Or.inr rfl
  unfold infinityBits at hhigh
  rw [ofInt, nearest, hbits] at hzeros
  unfold signBit at hzeros
  split at hzeros <;> omega

theorem plainMagnitude_eq_digits_iff {b : Binary} (hb : b.mantissa ≠ 0) {m : Nat} (hm : 0 < m) :
    digitsOf m = plainLayout.magnitude b ↔
      ∃ k : Nat, (shortest true b).exponent = k ∧ (shortest true b).coefficient * 10 ^ k = m := by
  rw [plainMagnitude_eq hb]
  constructor
  · intro heq
    rcases Int.lt_or_le (shortest true b).exponent 0 with hneg | hnonneg
    · have hdot := (Scaled.pointed_of_neg hneg false).dot_mem
      rw [← heq] at hdot
      exact absurd hdot (dot_notMem_of_digits (all_isDigit_digitsOf m))
    · refine ⟨(shortest true b).exponent.toNat, by omega, ?_⟩
      have hvalue := congrArg valueOf heq
      rw [Scaled.positional_of_nonneg hnonneg, valueOf_digitsOf] at hvalue
      simpa [valueOf_append, valueOf_zeros, length_zeros] using hvalue.symm
  · rintro ⟨k, hk, hvalue⟩
    have hpos : 0 < (shortest true b).coefficient := by
      apply Nat.pos_of_ne_zero
      intro hzero
      rw [hzero, Nat.zero_mul] at hvalue
      omega
    rw [Scaled.positional_of_nonneg (by omega), ← hvalue, digitsOf_mul_ten_pow hpos, hk]
    simp

theorem toString_eq_numberText_iff {n : Int} (h : (ofInt n).isFinite = true) :
    toString n = Param.numberText (ofInt n) ↔ n = 0 ∨ SameInteger n := by
  rcases eq_or_ne n 0 with rfl | h0
  · exact iff_of_true (by decide +kernel) (Or.inl rfl)
  · have hzero := not_stands_zero_ofInt h0
    have hmantissa : (Binary.ofFloat (ofInt n)).mantissa ≠ 0 := fun hm =>
      hzero (stands_zero_of_mantissa hm)
    have hsign : isNegative (ofInt n) = decide (n < 0) := isNegative_signed _ (nearestBits_le _ 1)
    have htext : Param.numberText (ofInt n) = plainLayout.text (ofInt n) := if_neg hzero
    rw [htext, ← String.toList_inj, toList_toString, text_of_finite h, hsign]
    simp only [decide_eq_true_eq, List.append_cancel_left_eq, h0, false_or]
    exact plainMagnitude_eq_digits_iff hmantissa (Int.natAbs_pos.2 h0)

theorem ofBits_normal (negative : Bool) {field low : Nat} (h0 : 0 < field) (h : field < 2048)
    (hlow : low < 2 ^ 52) :
    Binary.ofBits (if negative then field * 2 ^ 52 + low + signBit else field * 2 ^ 52 + low) =
      ⟨low + 2 ^ 52, (field : Int) - 1075⟩ := by
  obtain ⟨bits, hbits⟩ : ∃ bits, bits =
    if negative then field * 2 ^ 52 + low + signBit else field * 2 ^ 52 + low := ⟨_, rfl⟩
  have hfield : bits / 2 ^ 52 % 2048 = field := by
    rw [hbits, signBit]
    split <;> omega
  have hrest : bits % 2 ^ 52 = low := by
    rw [hbits, signBit]
    split <;> omega
  rw [← hbits, Binary.ofBits, twoTo_mantissaBits, hfield, hrest, if_neg (by omega), leastExponent,
    Binary.mk.injEq]
  exact ⟨rfl, by omega⟩

theorem ofFloat_ofInt {n : Int} (h0 : n ≠ 0) (h : n.natAbs < 2 ^ 53) :
    Binary.ofFloat (ofInt n) = wholeBinary n.natAbs := by
  have hpos := Int.natAbs_pos.2 h0
  have hbits := toBits_signed (n < 0) (nearestBits_le n.natAbs 1)
  have hlog := log2_le hpos h
  have hlow := le_fullMantissa hpos h
  have hhigh := fullMantissa_lt hpos h
  rw [Binary.ofFloat, ofInt, nearest, hbits, nearestBits_whole hpos h,
    ofBits_normal _ (by omega) (by omega) (by omega), wholeBinary, Binary.mk.injEq]
  exact ⟨by omega, by omega⟩

theorem sameInteger_of_lt {n : Int} (h0 : n ≠ 0) (h : n.natAbs < 2 ^ 53) : SameInteger n := by
  rw [SameInteger, ofFloat_ofInt h0 h]
  exact shortest_whole (Int.natAbs_pos.2 h0) h true

theorem not_sameText_whole {x : Float} {n : Int} (hx : Stands x n) (h0 : n ≠ 0)
    (h : n.natAbs < 2 ^ 53) : ¬ SameText (.ofFloat x) := by
  rintro ⟨-, hneg, -⟩
  obtain ⟨k, hk, -⟩ := shortest_whole (Int.natAbs_pos.2 h0) h true
  rw [(stands_iff_of_ne h0 h).1 hx, ofFloat_ofInt h0 h, hk] at hneg
  omega

end OrgPipeline.Decimal
