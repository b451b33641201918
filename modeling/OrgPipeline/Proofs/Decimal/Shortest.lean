import OrgPipeline.Decimal.Shortest
import OrgPipeline.Proofs.Decimal.Whole

/-!
# What the search for the shortest digits finds

Both rules for ties stop at the same grid, and what they find there differs by one at
most. A whole number is hit on the grid of the ones at the latest, and no other whole
number rounds to it, so that its shortest digits are its own.
-/

set_option autoImplicit false

namespace OrgPipeline.Decimal

namespace Scaled

theorem stripped_spec (fuel : Nat) (s : Scaled) :
    ∃ j : Nat, (s.stripped fuel).exponent = s.exponent + j ∧
      (s.stripped fuel).coefficient * 10 ^ j = s.coefficient := by
  induction fuel generalizing s with
  | zero => exact ⟨0, by simp [stripped]⟩
  | succ fuel ih =>
    rw [stripped]
    split
    · next h =>
      obtain ⟨j, hexponent, hcoefficient⟩ := ih ⟨s.coefficient / 10, s.exponent + 1⟩
      refine ⟨j + 1, by rw [hexponent]; push_cast; omega, ?_⟩
      rw [Nat.pow_succ, ← Nat.mul_assoc, hcoefficient]
      exact Nat.div_mul_cancel (Nat.dvd_of_mod_eq_zero h.1)
    · exact ⟨0, by simp⟩

theorem stripped_of_ne {s : Scaled} (h : s.coefficient % 10 ≠ 0) (fuel : Nat) :
    s.stripped fuel = s := by
  cases fuel with
  | zero => rfl
  | succ fuel => rw [stripped, if_neg fun hz => h hz.1]

end Scaled

namespace Interval

variable {i : Interval} {upOnTie : Bool}

theorem holds_of_neighbour? {k : Int} {c : Nat} (h : i.neighbour? upOnTie k = some c) :
    i.holds c k = true := by
  unfold neighbour? at h
  dsimp only at h
  split at h <;> grind

/-- The two rules for ties find something on the same grids, and if not the same then
the next number. -/
theorem neighbour?_ties (i : Interval) (k : Int) :
    (i.neighbour? false k = none ∧ i.neighbour? true k = none) ∨
      ∃ c c', i.neighbour? false k = some c ∧ i.neighbour? true k = some c' ∧
        (c' = c ∨ c' = c + 1) := by
  unfold neighbour?
  dsimp only
  split <;> grind

theorem search_ties (i : Interval) (fuel : Nat) (k : Int) :
    (i.search false fuel k = none ∧ i.search true fuel k = none) ∨
      ∃ c c' k', i.search false fuel k = some ⟨c, k'⟩ ∧ i.search true fuel k = some ⟨c', k'⟩ ∧
        (c' = c ∨ c' = c + 1) := by
  induction fuel generalizing k with
  | zero => exact Or.inl ⟨rfl, rfl⟩
  | succ fuel ih =>
    rcases i.neighbour?_ties k with ⟨hfalse, htrue⟩ | ⟨c, c', hfalse, htrue, hc⟩
    · rw [search, search, hfalse, htrue]
      exact ih (k - 1)
    · rw [search, search, hfalse, htrue]
      exact Or.inr ⟨c, c', k, rfl, rfl, hc⟩

theorem search_of_ones {c : Nat} (h : i.neighbour? upOnTie 0 = some c) (fuel k : Nat)
    (hk : k < fuel) :
    ∃ c' k' : Nat, i.search upOnTie fuel k = some ⟨c', k'⟩ ∧ i.holds c' k' = true := by
  induction fuel generalizing k with
  | zero => omega
  | succ fuel ih =>
    rw [search]
    cases hn : i.neighbour? upOnTie k with
    | some c' => exact ⟨c', k, rfl, holds_of_neighbour? hn⟩
    | none =>
      cases k with
      | zero =>
        rw [Int.natCast_zero, h] at hn
        cases hn
      | succ k =>
        have hnext : ((k + 1 : Nat) : Int) - 1 = k := by omega
        dsimp only
        rw [hnext]
        exact ih k (by omega)

end Interval

theorem shortest_ties (b : Binary) :
    shortest false b = shortest true b ∨
      ∃ c c' k, shortest false b = Scaled.stripped 20 ⟨c, k⟩ ∧
        shortest true b = Scaled.stripped 20 ⟨c', k⟩ ∧ c' = c + 1 := by
  unfold shortest
  dsimp only
  rcases (Interval.around b).search_ties 17
      (leadingExponent (Interval.around b).value (Interval.around b).exponent) with
    ⟨hfalse, htrue⟩ | ⟨c, c', k, hfalse, htrue, rfl | hc⟩
  · left
    rw [hfalse, htrue]
  · left
    rw [hfalse, htrue]
  · right
    rw [hfalse, htrue]
    exact ⟨c, c', k, rfl, rfl, hc⟩

section
variable {n : Nat}

def wholeBinary (n : Nat) : Binary := ⟨fullMantissa n, (Nat.log2 n : Int) - 52⟩

theorem overUnit_ones (m j k : Nat) : overUnit m (-(j : Int)) k = (m, 2 ^ j * 10 ^ k) := by
  have hj : (-(j : Int)).toNat = 0 := by omega
  have hk : (-(k : Int)).toNat = 0 := by omega
  simp [overUnit, twoTo, tenTo, hj, hk]

theorem around_whole (h0 : 0 < n) (h : n < 2 ^ 53) :
    ∃ (j below : Nat) (closed : Bool), 2 ≤ j ∧ (Nat.log2 n : Int) - 54 = -(j : Int) ∧
      0 < below ∧ below ≤ 2 ∧ Interval.around (wholeBinary n) =
        ⟨n * 2 ^ j - below, n * 2 ^ j, n * 2 ^ j + 2, closed, -(j : Int)⟩ := by
  have hlog := log2_le h0 h
  have hvalue : 4 * fullMantissa n = n * 2 ^ (54 - Nat.log2 n) := by
    have hexponent : 54 - Nat.log2 n = (52 - Nat.log2 n) + 2 := by omega
    rw [fullMantissa, hexponent, Nat.pow_add]
    ring
  have hunit : (Nat.log2 n : Int) - 52 - 2 = -((54 - Nat.log2 n : Nat) : Int) := by omega
  unfold Interval.around wholeBinary
  dsimp only
  rw [hvalue, hunit]
  refine ⟨54 - Nat.log2 n, _, _, by omega, by omega, ?_, ?_, rfl⟩ <;> split <;> omega

/-- No other whole number lies in the interval around one. -/
theorem holds_whole (h0 : 0 < n) (h : n < 2 ^ 53) {c k : Nat}
    (hc : (Interval.around (wholeBinary n)).holds c k = true) : c * 10 ^ k = n := by
  obtain ⟨j, below, closed, hj, -, -, hbelow, haround⟩ := around_whole h0 h
  have hunit : 4 ≤ 2 ^ j := Nat.pow_le_pow_right (n := 2) (by decide) hj
  have hpoint : c * (2 ^ j * 10 ^ k) = c * 10 ^ k * 2 ^ j := by ring
  rw [haround] at hc
  unfold Interval.holds at hc
  rw [overUnit_ones, overUnit_ones] at hc
  dsimp only at hc
  rw [hpoint] at hc
  generalize c * 10 ^ k = m at hc ⊢
  have hbounds : n * 2 ^ j ≤ m * 2 ^ j + 2 ∧ m * 2 ^ j ≤ n * 2 ^ j + 2 := by
    cases closed <;>
      simp only [Bool.false_eq_true, if_true, if_false, Bool.and_eq_true,
        decide_eq_true_eq] at hc <;>
      omega
  -- the next whole number is a whole unit away, and the interval ends before that
  by_contra hne
  rcases Nat.lt_or_gt_of_ne hne with hlt | hgt
  · have := Nat.mul_le_mul_right (2 ^ j) hlt
    rw [Nat.succ_mul] at this
    omega
  · have := Nat.mul_le_mul_right (2 ^ j) hgt
    rw [Nat.succ_mul] at this
    omega

theorem neighbour?_whole (h0 : 0 < n) (h : n < 2 ^ 53) (upOnTie : Bool) :
    (Interval.around (wholeBinary n)).neighbour? upOnTie 0 = some n := by
  obtain ⟨j, below, closed, hj, -, hpos, hbelow, haround⟩ := around_whole h0 h
  have hunit : 4 ≤ 2 ^ j := Nat.pow_le_pow_right (n := 2) (by decide) hj
  have hvalue : 4 ≤ n * 2 ^ j := Nat.le_trans hunit (Nat.le_mul_of_pos_left _ h0)
  have hones (m : Nat) : overUnit m (-(j : Int)) 0 = (m, 2 ^ j) := by
    simpa using overUnit_ones m j 0
  have hholds : (Interval.around (wholeBinary n)).holds n 0 = true := by
    rw [haround]
    unfold Interval.holds
    rw [hones, hones]
    cases closed
    · simp only [Bool.false_eq_true, if_false, Bool.and_eq_true, decide_eq_true_eq]
      omega
    · simp only [if_true, Bool.and_eq_true, decide_eq_true_eq]
      omega
  have hquotient : overUnit (Interval.around (wholeBinary n)).value
      (Interval.around (wholeBinary n)).exponent 0 = (n * 2 ^ j, 2 ^ j) := by
    rw [haround, hones]
  rw [Interval.neighbour?, hquotient]
  dsimp only
  rw [Nat.mul_div_cancel _ (by omega), Nat.mul_mod_left, hholds]
  split <;> simp_all

theorem leadingExponent_whole (h0 : 0 < n) (h : n < 2 ^ 53) :
    ∃ k : Nat, k < 17 ∧
      leadingExponent (Interval.around (wholeBinary n)).value
        (Interval.around (wholeBinary n)).exponent = k := by
  obtain ⟨j, below, closed, hj, hunit, -, -, haround⟩ := around_whole h0 h
  have hlog := log2_le h0 h
  have hguess : (Nat.log2 (n * 2 ^ j) : Int) + -(j : Int) = Nat.log2 n := by
    rw [log2_mul_two_pow h0]
    omega
  have hones : reaches (n * 2 ^ j) (-(j : Int)) 0 = true := by
    have hpair : overUnit (n * 2 ^ j) (-(j : Int)) 0 = (n * 2 ^ j, 2 ^ j) := by
      simpa using overUnit_ones (n * 2 ^ j) j 0
    rw [reaches, hpair]
    exact decide_eq_true (Nat.le_mul_of_pos_left _ h0)
  rw [haround]
  unfold leadingExponent
  dsimp only
  rw [hguess]
  obtain ⟨guess, hg⟩ : ∃ guess : Nat, (Nat.log2 n : Int) * 30103 / 100000 = guess :=
    ⟨(Nat.log2 n * 30103 / 100000), by omega⟩
  have hsmall : guess ≤ 15 := by omega
  rw [hg]
  split
  · exact ⟨guess + 1, by omega, by push_cast; rfl⟩
  · split
    · exact ⟨guess, by omega, rfl⟩
    · next hnone =>
      have hpos : guess ≠ 0 := fun hzero => hnone (by rw [hzero]; exact hones)
      exact ⟨guess - 1, by omega, by omega⟩

theorem shortest_whole (h0 : 0 < n) (h : n < 2 ^ 53) (upOnTie : Bool) :
    ∃ k : Nat, (shortest upOnTie (wholeBinary n)).exponent = k ∧
      (shortest upOnTie (wholeBinary n)).coefficient * 10 ^ k = n := by
  obtain ⟨lead, hlt, hlead⟩ := leadingExponent_whole h0 h
  obtain ⟨c, k, hsearch, hholds⟩ :=
    Interval.search_of_ones (neighbour?_whole h0 h upOnTie) 17 lead hlt
  obtain ⟨j, hexponent, hcoefficient⟩ := Scaled.stripped_spec 20 ⟨c, k⟩
  unfold shortest
  dsimp only
  rw [hlead, hsearch, Option.getD_some]
  refine ⟨k + j, by rw [hexponent]; push_cast; rfl, ?_⟩
  rw [Nat.add_comm, Nat.pow_add, ← Nat.mul_assoc, hcoefficient]
  exact holds_whole h0 h hholds

end

end OrgPipeline.Decimal
