import OrgPipeline.Proofs.Decimal.Finite

/-!
# Whole numbers without loss

A whole number below two to the fifty-third is kept as it is, its mantissa at full
length. Sums of such numbers are exact as long as they stay below that bound, and
such numbers compare as the integers do, whichever sign a zero has.
-/

set_option autoImplicit false

namespace OrgPipeline.Decimal

open Float.Model (UnpackedFloat Format totalExponent)
open Float.Model.UnpackedFloat (Sign ExtendedMantissa)

def signOf (negative : Bool) : Sign := if negative then .negative else .positive

theorem ofBitVec_eq_signOf {negative : Bool} {v : BitVec 1} (h : v.toNat = negative.toNat) :
    Sign.ofBitVec v = signOf negative := by
  cases negative
  · obtain rfl : v = 0#1 := BitVec.eq_of_toNat_eq h
    rfl
  · obtain rfl : v = 1#1 := BitVec.eq_of_toNat_eq h
    rfl

theorem toNat_signed (negative : Bool) {bits : Nat} (h : bits < signBit) :
    (UInt64.ofNat (if negative then bits + signBit else bits)).toNat =
      if negative then bits + signBit else bits := by
  rw [UInt64.toNat_ofNat']
  unfold signBit at *
  cases negative <;> simp <;> omega

/-- A number whose exponent is neither the least nor the greatest one. -/
theorem unpack_signed (negative : Bool) {field low : Nat} (h0 : 0 < field) (h : field < 2047)
    (hlow : low < 2 ^ 52) :
    (signed negative (field * 2 ^ 52 + low)).toModel.unpack =
      .finite (signOf negative) (2 ^ 52 + low) (field - 1075) (by omega) := by
  have hsmall : field * 2 ^ 52 + low < signBit := by
    unfold signBit
    omega
  have hbits := toNat_signed negative hsmall
  rw [signed]
  generalize UInt64.ofNat _ = bits at hbits ⊢
  have hexponent : exponentField bits = field := by
    rw [exponentField_eq, hbits, signBit]
    split <;> omega
  have hmantissa : mantissaField bits = low := by
    rw [mantissaField_eq, hbits, signBit]
    split <;> omega
  have hsign : signField bits = negative.toNat := by
    rw [signField_eq, hbits, signBit]
    cases negative <;> simp <;> omega
  rw [unpack_ofBits (by omega), UnpackedFloat.unpack]
  dsimp only
  rw [if_neg, if_neg]
  · rw [ofBitVec_eq_signOf hsign]
    congr 1
    · -- the implicit bit stands above all others of the mantissa
      rw [BitVec.toNat_append]
      change 1 <<< 52 ||| mantissaField bits = _
      rw [hmantissa, Nat.one_shiftLeft]
      simpa using (Nat.two_pow_add_eq_or_of_lt hlow 1).symm
    · change (exponentField bits : Int) - _ = _
      rw [hexponent]; rfl
  · intro hleast
    have hfield : exponentField bits = 0 := congrArg BitVec.toNat hleast
    omega
  · intro hgreatest
    have hfield : exponentField bits = 2047 := congrArg BitVec.toNat hgreatest
    omega

theorem log2_mono {a b : Nat} (ha : 0 < a) (h : a ≤ b) : Nat.log2 a ≤ Nat.log2 b :=
  (Nat.le_log2 (by omega)).2 (Nat.le_trans (Nat.log2_self_le ha.ne') h)

theorem log2_mul_two_pow {n : Nat} (h0 : 0 < n) (k : Nat) :
    Nat.log2 (n * 2 ^ k) = Nat.log2 n + k := by
  have hpow : 0 < 2 ^ k := Nat.pow_pos (by decide)
  refine (Nat.log2_eq_iff (Nat.mul_pos h0 hpow).ne').2 ⟨?_, ?_⟩
  · rw [Nat.pow_add]
    exact Nat.mul_le_mul_right _ (Nat.log2_self_le h0.ne')
  · rw [Nat.add_right_comm, Nat.pow_add]
    exact Nat.mul_lt_mul_of_pos_right Nat.lt_log2_self hpow

def fullMantissa (n : Nat) : Nat := n * 2 ^ (52 - Nat.log2 n)

section
variable {n : Nat}

theorem log2_le (h0 : 0 < n) (h : n < 2 ^ 53) : Nat.log2 n ≤ 52 :=
  Nat.le_of_lt_succ ((Nat.log2_lt (Nat.ne_of_gt h0)).2 h)

theorem le_fullMantissa (h0 : 0 < n) (h : n < 2 ^ 53) : 2 ^ 52 ≤ fullMantissa n :=
  calc 2 ^ 52 = 2 ^ Nat.log2 n * 2 ^ (52 - Nat.log2 n) := by
        rw [← Nat.pow_add, Nat.add_sub_cancel' (log2_le h0 h)]
    _ ≤ fullMantissa n := Nat.mul_le_mul_right _ (Nat.log2_self_le (Nat.ne_of_gt h0))

theorem fullMantissa_pos (h0 : 0 < n) (h : n < 2 ^ 53) : 0 < fullMantissa n :=
  Nat.lt_of_lt_of_le (by decide) (le_fullMantissa h0 h)

theorem fullMantissa_lt (h0 : 0 < n) (h : n < 2 ^ 53) : fullMantissa n < 2 ^ 53 :=
  calc fullMantissa n < 2 ^ (Nat.log2 n + 1) * 2 ^ (52 - Nat.log2 n) :=
        Nat.mul_lt_mul_of_pos_right Nat.lt_log2_self (Nat.pow_pos (by decide))
    _ = 2 ^ 53 := by
        rw [← Nat.pow_add]
        congr 1
        have := log2_le h0 h
        omega

@[simp]
theorem roundHalfEven_one (m : Nat) : roundHalfEven m 1 = m := by
  simp [roundHalfEven, Nat.mod_one]

theorem twoTo_mantissaBits : twoTo mantissaBits = 2 ^ 52 := rfl

theorem unitExponent_whole (h0 : 0 < n) (h : n < 2 ^ 53) :
    unitExponent n 1 = (Nat.log2 n : Int) - 52 := by
  have hlog := log2_le h0 h
  have hlow : max ((Nat.log2 n : Int) - Nat.log2 1 - 53) leastExponent = Nat.log2 n - 53 := by
    have hone : Nat.log2 1 = 0 := by decide
    rw [hone]
    unfold leastExponent
    omega
  have hunits : inUnits n 1 ((Nat.log2 n : Int) - 53) = (2 * fullMantissa n, 1) := by
    rw [inUnits, if_neg (by omega), fullMantissa, Nat.mul_left_comm, ← Nat.pow_succ']
    simp only [twoTo, Prod.mk.injEq, and_true]
    congr 2
    omega
  have hfull := le_fullMantissa h0 h
  rw [unitExponent, hlow, hunits]
  dsimp only
  have htwo : twoTo 53 = 2 ^ 53 := rfl
  rw [Nat.div_one, htwo, if_pos (by omega)]
  omega

theorem inUnits_whole (h0 : 0 < n) (h : n < 2 ^ 53) :
    inUnits n 1 ((Nat.log2 n : Int) - 52) = (fullMantissa n, 1) := by
  have hlog := log2_le h0 h
  unfold inUnits fullMantissa twoTo
  split
  · have h52 : Nat.log2 n = 52 := by omega
    simp [h52]
  · congr 3
    omega

theorem nearestBits_whole (h0 : 0 < n) (h : n < 2 ^ 53) :
    nearestBits n 1 = (Nat.log2 n + 1023) * 2 ^ 52 + (fullMantissa n - 2 ^ 52) := by
  have hlog := log2_le h0 h
  have hlow := le_fullMantissa h0 h
  have hhigh := fullMantissa_lt h0 h
  rw [nearestBits, if_neg (by omega), unitExponent_whole h0 h]
  dsimp only
  rw [inUnits_whole h0 h]
  dsimp only
  have hunit : ((Nat.log2 n : Int) - 52 - leastExponent).toNat = Nat.log2 n + 1022 := by
    unfold leastExponent
    omega
  rw [roundHalfEven_one, hunit, twoTo_mantissaBits]
  unfold infinityBits
  omega

theorem log2_fullMantissa (h0 : 0 < n) (h : n < 2 ^ 53) : Nat.log2 (fullMantissa n) = 52 := by
  have hlow := le_fullMantissa h0 h
  exact (Nat.log2_eq_iff (by omega)).2 ⟨hlow, fullMantissa_lt h0 h⟩

end

theorem unpack_ofInt {n : Int} (h0 : n ≠ 0) (h : n.natAbs < 2 ^ 53) :
    (ofInt n).toModel.unpack =
      .finite (signOf (n < 0)) (fullMantissa n.natAbs) ((Nat.log2 n.natAbs : Int) - 52)
        (fullMantissa_pos (Int.natAbs_pos.2 h0) h) := by
  have hpos := Int.natAbs_pos.2 h0
  have hlow := le_fullMantissa hpos h
  have hhigh := fullMantissa_lt hpos h
  have hlog := log2_le hpos h
  rw [ofInt, nearest, nearestBits_whole hpos h,
    unpack_signed _ (by omega) (by omega) (by omega), UnpackedFloat.finite.injEq]
  exact ⟨rfl, by omega, by omega⟩

theorem ofInt_natCast (n : Nat) : ofInt n = ofNat n := by
  rw [ofInt, ofNat, Int.natAbs_natCast, decide_eq_false (by omega)]

theorem div_le_roundHalfEven (num den : Nat) : num / den ≤ roundHalfEven num den := by
  unfold roundHalfEven
  dsimp only
  split
  · omega
  · split <;> omega

theorem le_nearestBits_large {n : Nat} (h : 2 ^ 53 ≤ n) : 1076 * 2 ^ 52 ≤ nearestBits n 1 := by
  have hne : n ≠ 0 := by omega
  have hlog : 53 ≤ Nat.log2 n := (Nat.le_log2 hne).2 h
  obtain ⟨k, hk⟩ := Nat.exists_eq_add_of_le hlog
  have hself : 2 ^ (53 + k) ≤ n := hk ▸ Nat.log2_self_le hne
  have hlow : max ((Nat.log2 n : Int) - Nat.log2 1 - 53) leastExponent = k := by
    have hone : Nat.log2 1 = 0 := by decide
    rw [hone, hk]
    unfold leastExponent
    omega
  have hunits (j : Nat) : inUnits n 1 (j : Int) = (n, 2 ^ j) := by
    rw [inUnits, if_pos (by omega), Int.toNat_natCast, Nat.one_mul]
    rfl
  have hquot : 2 ^ 53 ≤ n / 2 ^ k := by
    rw [Nat.le_div_iff_mul_le (Nat.pow_pos (by decide)), ← Nat.pow_add]
    exact hself
  have hexp : unitExponent n 1 = (k + 1 : Nat) := by
    have htwo : twoTo 53 = 2 ^ 53 := rfl
    rw [unitExponent, hlow, hunits]
    dsimp only
    rw [htwo, if_pos hquot]
    omega
  have hround : 2 ^ 52 ≤ roundHalfEven n (2 ^ (k + 1)) := by
    refine Nat.le_trans ?_ (div_le_roundHalfEven n _)
    rw [Nat.le_div_iff_mul_le (Nat.pow_pos (by decide)), ← Nat.pow_add]
    exact Nat.le_trans (Nat.pow_le_pow_right (by decide) (by omega)) hself
  rw [nearestBits, if_neg hne, hexp]
  dsimp only
  rw [hunits]
  dsimp only
  have hunit : (((k + 1 : Nat) : Int) - leastExponent).toNat = k + 1075 := by
    unfold leastExponent
    omega
  rw [hunit, twoTo_mantissaBits]
  refine Nat.le_min.2 ⟨?_, by decide⟩
  calc 1076 * 2 ^ 52 = 1075 * 2 ^ 52 + 2 ^ 52 := rfl
    _ ≤ (k + 1075) * 2 ^ 52 + roundHalfEven n (2 ^ (k + 1)) :=
      Nat.add_le_add (Nat.mul_le_mul_right _ (Nat.le_add_left ..)) hround

theorem nearestBits_le (num den : Nat) : nearestBits num den ≤ infinityBits := by
  unfold nearestBits
  split
  · decide
  · exact Nat.min_le_right _ _

theorem unpack_ofNat_large {n : Nat} (h : 2 ^ 53 ≤ n) :
    (ofNat n).toModel.unpack = .infinity .positive ∨
      ∃ mantissa exponent hpos, 0 < exponent ∧
        (ofNat n).toModel.unpack = .finite .positive mantissa exponent hpos := by
  have hlow := le_nearestBits_large h
  rcases Nat.lt_or_eq_of_le (nearestBits_le n 1) with hlt | heq
  · right
    unfold infinityBits at hlt
    have hleast : 0 < nearestBits n 1 / 2 ^ 52 := by omega
    have hgreatest : nearestBits n 1 / 2 ^ 52 < 2047 := by omega
    have hunpack := unpack_signed false hleast hgreatest (Nat.mod_lt (nearestBits n 1) (by decide))
    rw [Nat.div_add_mod'] at hunpack
    exact ⟨_, _, _, by omega, hunpack⟩
  · left
    rw [ofNat, nearest, heq]
    rfl

theorem shiftRight_exact (m k : Nat) : ∀ j ≤ k,
    (⟨m * 2 ^ k, false, false⟩ : ExtendedMantissa) >>> j = ⟨m * 2 ^ (k - j), false, false⟩ := by
  intro j hj
  induction j with
  | zero => rfl
  | succ j ih =>
    have hstep : (⟨m * 2 ^ k, false, false⟩ : ExtendedMantissa) >>> (j + 1) =
        ((⟨m * 2 ^ k, false, false⟩ : ExtendedMantissa) >>> j).shiftRightOne := rfl
    have hk : k - j = k - (j + 1) + 1 := by omega
    rw [hstep, ih (by omega), ExtendedMantissa.shiftRightOne, hk, Nat.pow_succ, ← Nat.mul_assoc]
    simp

theorem targetExponent_eq {m k : Nat} {e : Int} (hk : k ≤ 52)
    (h : (Nat.log2 m : Int) + e = k) :
    Format.binary64.targetExponent (totalExponent m e) = (k : Int) - 52 := by
  rw [Format.targetExponent, totalExponent]
  change max ((Nat.log2 m : Int) + 1 + e - 53) (-1074) = _
  omega

theorem shiftToTarget_exact {m k : Nat} {e t : Int}
    (ht : Format.binary64.targetExponent (totalExponent (m * 2 ^ k) e) = t)
    (hle : e ≤ t) (hk : (t - e).toNat ≤ k) :
    UnpackedFloat.shiftToTargetExponent .binary64 (m * 2 ^ k) e .exact =
      (⟨m * 2 ^ (k - (t - e).toNat), false, false⟩, t) := by
  have hshift := shiftRight_exact m k _ hk
  have hexponent : e + (t - e).toNat = t := by omega
  simp only [UnpackedFloat.shiftToTargetExponent, UnpackedFloat.shiftToExponent, ht,
    ExtendedMantissa.ofMantissaAndAccuracy, hshift, hexponent]

theorem shiftToTarget_fixed {m : Nat} {e : Int}
    (ht : Format.binary64.targetExponent (totalExponent m e) = e) :
    UnpackedFloat.shiftToTargetExponent .binary64 m e .exact = (⟨m, false, false⟩, e) := by
  have h := shiftToTarget_exact (m := m) (k := 0) (e := e) (t := e)
  simpa [ht] using h

theorem round_whole {n : Nat} (h0 : 0 < n) (h : n < 2 ^ 53) {k : Nat}
    (hk : 52 - Nat.log2 n ≤ k) :
    UnpackedFloat.round .binary64 .positive (n * 2 ^ k) (-k) =
      .finite .positive (fullMantissa n) ((Nat.log2 n : Int) - 52)
        (fullMantissa_pos h0 h) := by
  have hlog := log2_le h0 h
  have htarget : Format.binary64.targetExponent (totalExponent (n * 2 ^ k) (-k)) =
      (Nat.log2 n : Int) - 52 := by
    apply targetExponent_eq hlog
    rw [log2_mul_two_pow h0]
    omega
  have hstay : UnpackedFloat.decreaseExponent (n * 2 ^ k) (-k) ((Nat.log2 n : Int) - 52) =
      (n * 2 ^ k, -(k : Int)) := by
    have hnone : (-(k : Int) - ((Nat.log2 n : Int) - 52)).toNat = 0 := by omega
    rw [UnpackedFloat.decreaseExponent, hnone]
    simp
  have hfirst : UnpackedFloat.shiftToTargetExponent .binary64 (n * 2 ^ k) (-k) .exact =
      (⟨fullMantissa n, false, false⟩, (Nat.log2 n : Int) - 52) := by
    have hmantissa : n * 2 ^ (k - ((Nat.log2 n : Int) - 52 - -k).toNat) = fullMantissa n := by
      rw [fullMantissa]
      congr 2
      omega
    rw [shiftToTarget_exact htarget (by omega) (by omega), hmantissa]
  have hsecond := shiftToTarget_fixed (m := fullMantissa n) (e := (Nat.log2 n : Int) - 52)
    (targetExponent_eq hlog (by rw [log2_fullMantissa h0 h]; omega))
  have hrounded : ExtendedMantissa.roundedMantissa ⟨fullMantissa n, false, false⟩ =
      fullMantissa n := rfl
  have hne : fullMantissa n ≠ 0 := (fullMantissa_pos h0 h).ne'
  simp only [UnpackedFloat.round, htarget, hstay, UnpackedFloat.roundWithAccuracy, hfirst,
    hrounded, hsecond, hne, dite_false]

theorem add_eq {x y z : Float}
    (h : UnpackedFloat.add .binary64 x.toModel.unpack y.toModel.unpack = z.toModel.unpack) :
    x + y = z := by
  change Float.ofModel (Float.Model.pack
    (UnpackedFloat.add .binary64 x.toModel.unpack y.toModel.unpack)) = z
  rw [h]
  exact Float.ofBits_toBits z

theorem unpack_ofNat {n : Nat} (h0 : 0 < n) (h : n < 2 ^ 53) :
    (ofNat n).toModel.unpack =
      .finite .positive (fullMantissa n) ((Nat.log2 n : Int) - 52)
        (fullMantissa_pos h0 h) := by
  rw [← ofInt_natCast, unpack_ofInt (Int.natCast_ne_zero.2 h0.ne') h, decide_eq_false (by omega)]
  rfl

theorem decreaseExponent_whole {n l : Nat} (hl : l ≤ Nat.log2 n) (hlog : Nat.log2 n ≤ 52) :
    (UnpackedFloat.decreaseExponent (fullMantissa n) ((Nat.log2 n : Int) - 52) ((l : Int) - 52)).1 =
      n * 2 ^ (52 - l) := by
  have hshift : ((Nat.log2 n : Int) - 52 - ((l : Int) - 52)).toNat = Nat.log2 n - l := by omega
  rw [UnpackedFloat.decreaseExponent, hshift]
  dsimp only
  rw [Nat.shiftLeft_eq, fullMantissa, Nat.mul_assoc, ← Nat.pow_add]
  congr 2
  omega

theorem ofNat_add_of_pos {a b : Nat} (ha : 0 < a) (hb : 0 < b) (h : a + b < 2 ^ 53) :
    ofNat a + ofNat b = ofNat (a + b) := by
  -- in units of the smaller exponent both are whole, and so is their sum
  obtain ⟨l, hl⟩ : ∃ l, l = min (Nat.log2 a) (Nat.log2 b) := ⟨_, rfl⟩
  have hla := log2_le ha (by omega)
  have hlb := log2_le hb (by omega)
  have hmin : min ((Nat.log2 a : Int) - 52) ((Nat.log2 b : Int) - 52) = (l : Int) - 52 := by omega
  have hunit : (l : Int) - 52 = -((52 - l : Nat) : Int) := by omega
  have hmantissa : ((a * 2 ^ (52 - l) : Nat) : Int) + ((b * 2 ^ (52 - l) : Nat) : Int) =
      (((a + b) * 2 ^ (52 - l) : Nat) : Int) := by
    rw [Nat.add_mul, Int.natCast_add]
  have hpos : (0 : Int) < (((a + b) * 2 ^ (52 - l) : Nat) : Int) :=
    Int.natCast_pos.2 (Nat.mul_pos (by omega) (Nat.pow_pos (by decide)))
  have hlog : 52 - Nat.log2 (a + b) ≤ 52 - l := by
    have := log2_mono ha (Nat.le_add_right a b)
    omega
  apply add_eq
  rw [unpack_ofNat ha (by omega), unpack_ofNat hb (by omega), unpack_ofNat (by omega) h,
    UnpackedFloat.add, hmin]
  dsimp only [Sign.apply]
  rw [decreaseExponent_whole (by omega) hla, decreaseExponent_whole (by omega) hlb, hmantissa,
    UnpackedFloat.normalize, Int.compare_eq_gt.2 hpos]
  dsimp only
  rw [Int.toNat_natCast, hunit, round_whole (by omega) h hlog]

def Stands (x : Float) (n : Int) : Prop := (x == ofInt n) = true

theorem eq_of_unpack_eq {x y : Float} (h : x.toModel.unpack = y.toModel.unpack) : x = y := by
  rw [← Float.ofBits_toBits x, ← Float.ofBits_toBits y]
  exact congrArg (fun u => Float.ofModel (Float.Model.pack u)) h

theorem stands_zero_iff {x : Float} : Stands x 0 ↔ ∃ s, x.toModel.unpack = .zero s := by
  change UnpackedFloat.beq x.toModel.unpack (ofInt 0).toModel.unpack = true ↔ _
  have hzero : (ofInt 0).toModel.unpack = .zero .positive := rfl
  rw [UnpackedFloat.beq_iff_ne_notANumber_and_eq, hzero]
  constructor
  · rintro ⟨-, -, h | ⟨h, -⟩ | ⟨h, -⟩⟩
    · exact ⟨_, h⟩
    · exact ⟨_, h⟩
    · exact ⟨_, h⟩
  · rintro ⟨s, hs⟩
    rw [hs]
    cases s <;> simp

theorem eq_of_stands_zero {x : Float} (h : Stands x 0) : x = ofInt 0 ∨ x = signed true 0 := by
  obtain ⟨s, hs⟩ := stands_zero_iff.1 h
  cases s with
  | positive => exact Or.inl (eq_of_unpack_eq (hs.trans rfl))
  | negative => exact Or.inr (eq_of_unpack_eq (hs.trans rfl))

theorem stands_iff_of_ne {x : Float} {n : Int} (h0 : n ≠ 0) (h : n.natAbs < 2 ^ 53) :
    Stands x n ↔ x = ofInt n := by
  change UnpackedFloat.beq x.toModel.unpack (ofInt n).toModel.unpack = true ↔ _
  rw [UnpackedFloat.beq_iff_ne_notANumber_and_eq, unpack_ofInt h0 h]
  constructor
  · rintro ⟨-, -, hx | ⟨-, hzero⟩ | ⟨-, hzero⟩⟩
    · exact eq_of_unpack_eq (hx.trans (unpack_ofInt h0 h).symm)
    · cases hzero
    · cases hzero
  · rintro rfl
    rw [unpack_ofInt h0 h]
    exact ⟨by rintro ⟨⟩, by rintro ⟨⟩, Or.inl rfl⟩

theorem stands_ofInt {n : Int} (h : n.natAbs < 2 ^ 53) : Stands (ofInt n) n := by
  rcases eq_or_ne n 0 with rfl | h0
  · exact stands_zero_iff.2 ⟨_, rfl⟩
  · exact (stands_iff_of_ne h0 h).2 rfl

theorem stands_add_zeros {x y : Float} (hx : Stands x 0) (hy : Stands y 0) :
    Stands (x + y) 0 := by
  obtain ⟨s, hs⟩ := stands_zero_iff.1 hx
  obtain ⟨t, ht⟩ := stands_zero_iff.1 hy
  have hsum : x + y = x ∨ x + y = ofInt 0 := by
    cases s <;> cases t
    · exact Or.inl (add_eq (by rw [hs, ht]; rfl))
    · exact Or.inr (add_eq (by rw [hs, ht]; rfl))
    · exact Or.inr (add_eq (by rw [hs, ht]; rfl))
    · exact Or.inl (add_eq (by rw [hs, ht]; rfl))
  rcases hsum with hsum | hsum <;> rw [hsum]
  · exact hx
  · exact stands_ofInt (by decide)

theorem zero_add_ofNat {x : Float} {n : Nat} (hx : Stands x 0) (h0 : 0 < n) (h : n < 2 ^ 53) :
    x + ofNat n = ofNat n := by
  obtain ⟨s, hs⟩ := stands_zero_iff.1 hx
  apply add_eq
  rw [hs, unpack_ofNat h0 h]
  rfl

theorem ofNat_add_zero {x : Float} {n : Nat} (hx : Stands x 0) (h0 : 0 < n) (h : n < 2 ^ 53) :
    ofNat n + x = ofNat n := by
  obtain ⟨s, hs⟩ := stands_zero_iff.1 hx
  apply add_eq
  rw [hs, unpack_ofNat h0 h]
  rfl

theorem stands_ofNat {n : Nat} (h : n < 2 ^ 53) : Stands (ofNat n) n := by
  rw [← ofInt_natCast]
  exact stands_ofInt (by omega)

theorem Stands.eq_ofNat {x : Float} {n : Nat} (hx : Stands x n) (h0 : 0 < n) (h : n < 2 ^ 53) :
    x = ofNat n := by
  rw [← ofInt_natCast]
  exact (stands_iff_of_ne (by omega) (by omega)).1 hx

theorem Stands.add {x y : Float} {a b : Nat} (hx : Stands x a) (hy : Stands y b)
    (h : a + b < 2 ^ 53) : Stands (x + y) (a + b : Nat) := by
  rcases Nat.eq_zero_or_pos a with rfl | ha
  · rcases Nat.eq_zero_or_pos b with rfl | hb
    · exact stands_add_zeros hx hy
    · obtain rfl := hy.eq_ofNat hb (by omega)
      rw [zero_add_ofNat hx hb (by omega), Nat.zero_add]
      exact hy
  · obtain rfl := hx.eq_ofNat ha (by omega)
    rcases Nat.eq_zero_or_pos b with rfl | hb
    · rw [ofNat_add_zero hy ha h]
      exact hx
    · obtain rfl := hy.eq_ofNat hb (by omega)
      rw [ofNat_add_of_pos ha hb h]
      exact stands_ofNat h

theorem lt_iff_compare {x y : Float} :
    x < y ↔ UnpackedFloat.compare x.toModel.unpack y.toModel.unpack = some .lt := by
  change decide (UnpackedFloat.lt x.toModel.unpack y.toModel.unpack = true) = true ↔ _
  rw [decide_eq_true_eq, UnpackedFloat.lt, beq_iff_eq]

theorem compare_whole {a b : Nat} (ha : 0 < a) (hb : 0 < b) :
    (compare ((Nat.log2 a : Int) - 52) ((Nat.log2 b : Int) - 52)).then
        (compare (fullMantissa a) (fullMantissa b)) = .lt ↔ a < b := by
  rw [Ordering.then_eq_lt, Int.compare_eq_lt, Int.compare_eq_eq, Nat.compare_eq_lt]
  have hpow : 0 < 2 ^ (52 - Nat.log2 a) := Nat.pow_pos (by decide)
  constructor
  · rintro (hlog | ⟨hlog, hmantissa⟩)
    · by_contra hle
      have := log2_mono hb (Nat.le_of_not_lt hle)
      omega
    · have hsame : Nat.log2 b = Nat.log2 a := by omega
      rw [fullMantissa, fullMantissa, hsame] at hmantissa
      exact Nat.lt_of_mul_lt_mul_right hmantissa
  · intro hlt
    rcases Nat.lt_or_eq_of_le (log2_mono ha hlt.le) with hlog | hlog
    · exact Or.inl (by omega)
    · refine Or.inr ⟨by omega, ?_⟩
      rw [fullMantissa, fullMantissa, ← hlog]
      exact Nat.mul_lt_mul_of_pos_right hlt hpow

theorem Stands.unpack {x : Float} {k : Int} (hx : Stands x k) (hk : k.natAbs < 2 ^ 53)
    (h0 : k ≠ 0) :
    x.toModel.unpack =
      .finite (signOf (k < 0)) (fullMantissa k.natAbs) ((Nat.log2 k.natAbs : Int) - 52)
        (fullMantissa_pos (Int.natAbs_pos.2 h0) hk) := by
  rw [(stands_iff_of_ne h0 hk).1 hx, unpack_ofInt h0 hk]

theorem Stands.lt_iff {x y : Float} {k : Int} {n : Nat} (hx : Stands x k)
    (hk : k.natAbs < 2 ^ 53) (hy : Stands y n) (hn : n < 2 ^ 53) : x < y ↔ k < n := by
  rw [lt_iff_compare]
  rcases eq_or_ne k 0 with rfl | hk0
  · obtain ⟨s, hs⟩ := stands_zero_iff.1 hx
    rcases Nat.eq_zero_or_pos n with rfl | hn0
    · obtain ⟨t, ht⟩ := stands_zero_iff.1 hy
      rw [hs, ht]
      simp [UnpackedFloat.compare]
    · rw [hs, hy.unpack hn (by omega), decide_eq_false (by omega)]
      simpa [UnpackedFloat.compare, signOf] using hn0
  · rw [hx.unpack hk hk0]
    rcases Nat.eq_zero_or_pos n with rfl | hn0
    · obtain ⟨t, ht⟩ := stands_zero_iff.1 hy
      rw [ht]
      rcases Int.lt_or_gt_of_ne hk0 with hneg | hpos
      · rw [decide_eq_true hneg]
        simpa [UnpackedFloat.compare, signOf] using hneg
      · rw [decide_eq_false (by omega)]
        simpa [UnpackedFloat.compare, signOf] using hpos.le
    · rw [hy.unpack hn (by omega), decide_eq_false (p := (n : Int) < 0) (by omega)]
      rcases Int.lt_or_gt_of_ne hk0 with hneg | hpos
      · rw [decide_eq_true hneg]
        simp only [UnpackedFloat.compare, signOf, if_true, Bool.false_eq_true, if_false, true_iff]
        omega
      · obtain ⟨m, rfl⟩ := Int.eq_ofNat_of_zero_le hpos.le
        rw [decide_eq_false (by omega)]
        have hcompare := compare_whole (a := m) (b := n) (by omega) hn0
        simp only [UnpackedFloat.compare, signOf, Bool.false_eq_true, if_false, Option.some.injEq]
        exact hcompare.trans Int.ofNat_lt.symm

theorem Stands.lt_large {x : Float} {k : Int} (hx : Stands x k) (hk : k.natAbs < 2 ^ 53) {n : Nat}
    (hn : 2 ^ 53 ≤ n) : x < ofNat n := by
  have hlog (h0 : k ≠ 0) := log2_le (Int.natAbs_pos.2 h0) hk
  rw [lt_iff_compare]
  rcases eq_or_ne k 0 with rfl | hk0
  · obtain ⟨s, hs⟩ := stands_zero_iff.1 hx
    rw [hs]
    rcases unpack_ofNat_large hn with hlarge | ⟨m, e, hm, he, hlarge⟩ <;> rw [hlarge] <;> rfl
  · rw [hx.unpack hk hk0]
    rcases unpack_ofNat_large hn with hlarge | ⟨m, e, hm, he, hlarge⟩
    · rw [hlarge]
      simp [UnpackedFloat.compare]
    · rw [hlarge]
      have hexponent : ((Nat.log2 k.natAbs : Int) - 52) < e := by
        have := hlog hk0
        omega
      cases decide (k < 0)
      · simp [UnpackedFloat.compare, signOf, Int.compare_eq_lt.2 hexponent]
      · rfl

theorem Stands.lt_ofNat_iff {x : Float} {k : Int} (hx : Stands x k) (hk : k.natAbs < 2 ^ 53)
    (n : Nat) : x < ofNat n ↔ k < n := by
  rcases Nat.lt_or_ge n (2 ^ 53) with hn | hn
  · exact hx.lt_iff hk (stands_ofNat hn) hn
  · exact iff_of_true (hx.lt_large hk hn) (by omega)

end OrgPipeline.Decimal
