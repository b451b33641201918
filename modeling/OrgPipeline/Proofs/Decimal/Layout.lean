import OrgPipeline.Proofs.Decimal.Plain
import OrgPipeline.Proofs.Decimal.Digits
import OrgPipeline.Proofs.Decimal.Shortest

/-!
# One number in two layouts

A decimal can be read off a text that has digits after its point. The two layouts give
one text for a number only where both show digits after the point, from the same
shortest decimal, and neither shows an exponent.
-/

set_option autoImplicit false

namespace OrgPipeline.Decimal

theorem valueOf_append (a b : List Char) :
    valueOf (a ++ b) = valueOf a * 10 ^ b.length + valueOf b := by
  rw [valueOf_eq, valueOf_eq, valueOf_eq, Nat.ofDigitChars_append,
    Nat.ofDigitChars_eq_ofDigitChars_zero, Nat.mul_comm]

theorem length_zeros (n : Nat) : (zeros n).length = n := List.length_replicate

theorem valueOf_zeros (n : Nat) : valueOf (zeros n) = 0 := by
  rw [valueOf_eq, zeros, Nat.ofDigitChars_replicate_zero, Nat.mul_zero]

theorem digitsOf_mul_ten_pow {n : Nat} (h : 0 < n) (k : Nat) :
    digitsOf (n * 10 ^ k) = digitsOf n ++ zeros k := by
  induction k with
  | zero => simp [zeros]
  | succ k ih =>
    have hstep := Nat.toDigits_append_toDigits (b := 10) (n := n * 10 ^ k) (d := 0) (by decide)
      (Nat.mul_pos h (Nat.pow_pos (by decide))) (by decide)
    have hzero : Nat.toDigits 10 0 = ['0'] := rfl
    have hvalue : n * 10 ^ (k + 1) = 10 * (n * 10 ^ k) + 0 := by ring
    rw [hvalue, digitsOf, ← hstep, hzero, ← digitsOf, ih, zeros, zeros, List.replicate_succ',
      List.append_assoc]

/-- The text is digits with a point among them, and the decimal is these digits with
the number of those that stand after the point. -/
def Pointed (cs : List Char) (s : Scaled) : Prop :=
  ∃ before after, cs = before ++ '.' :: after ∧ (before ++ after).all isDigit = true ∧
    s.exponent = -after.length ∧ s.coefficient = valueOf (before ++ after)

theorem dot_notMem_of_digits {cs : List Char} (h : cs.all isDigit = true) : '.' ∉ cs := fun hdot =>
  absurd (List.all_eq_true.1 h _ hdot) (by decide)

theorem Pointed.unique {cs : List Char} {s t : Scaled} (hs : Pointed cs s) (ht : Pointed cs t) :
    s = t := by
  obtain ⟨a, b, rfl, hdigits, hse, hsc⟩ := hs
  obtain ⟨a', b', hcut, -, hte, htc⟩ := ht
  have hdot := dot_notMem_of_digits hdigits
  rw [List.mem_append, not_or] at hdot
  obtain ⟨rfl, -, rfl⟩ := (List.append_cons_inj_of_notMem hdot.1 hdot.2).1 hcut
  obtain ⟨c, e⟩ := s
  obtain ⟨c', e'⟩ := t
  dsimp only at hse hsc hte htc
  rw [hse, hsc, hte, htc]

theorem Pointed.dot_mem {cs : List Char} {s : Scaled} (h : Pointed cs s) : '.' ∈ cs := by
  obtain ⟨a, b, rfl, -⟩ := h
  simp

theorem all_isDigit_zeros (n : Nat) : (zeros n).all isDigit = true := by
  rw [zeros, List.all_replicate]
  split <;> decide

def Scaled.places (s : Scaled) : Int := s.exponent + (digitsOf s.coefficient).length

def Scaled.positional (s : Scaled) (fraction : Bool) : List Char :=
  positionalText fraction (digitsOf s.coefficient) s.places

namespace Scaled
variable {s : Scaled}

/-- A negative exponent shows as digits after the point. -/
theorem pointed_of_neg (h : s.exponent < 0) (fraction : Bool) :
    Pointed (s.positional fraction) s := by
  have hdigits := all_isDigit_digitsOf s.coefficient
  have hvalue := valueOf_digitsOf s.coefficient
  unfold positional places
  generalize digitsOf s.coefficient = digits at hdigits hvalue
  unfold positionalText
  split
  · next hnone =>
    refine ⟨['0'], zeros (-(s.exponent + digits.length)).toNat ++ digits, rfl, ?_, ?_, ?_⟩
    · rw [List.all_append, List.all_append, all_isDigit_zeros, hdigits]
      decide
    · rw [List.length_append, length_zeros]
      omega
    · rw [valueOf_append, valueOf_append, valueOf_zeros, hvalue]
      simp [valueOf, digitValue]
  · next hsome =>
    rw [if_pos (by omega)]
    refine ⟨_, _, rfl, ?_, ?_, ?_⟩
    · rw [List.take_append_drop, hdigits]
    · rw [List.length_drop]
      omega
    · rw [List.take_append_drop, hvalue]

theorem positional_of_neg (h : s.exponent < 0) : s.positional true = s.positional false := by
  unfold positional places positionalText
  split
  · rfl
  · rw [if_pos (by omega), if_pos (by omega)]

theorem positional_of_nonneg (h : 0 ≤ s.exponent) (fraction : Bool) :
    s.positional fraction =
      digitsOf s.coefficient ++ zeros s.exponent.toNat ++ if fraction then ['.', '0'] else [] := by
  have hlength := List.length_pos_iff.2 (digitsOf_ne_nil s.coefficient)
  have hzeros : (s.exponent + (digitsOf s.coefficient).length).toNat -
      (digitsOf s.coefficient).length = s.exponent.toNat := by omega
  rw [positional, places, positionalText, if_neg (by omega), if_neg (by omega), hzeros]

theorem pointed_of_nonneg (h : 0 ≤ s.exponent) :
    Pointed (s.positional true) ⟨s.coefficient * 10 ^ (s.exponent.toNat + 1), -1⟩ := by
  refine ⟨digitsOf s.coefficient ++ zeros s.exponent.toNat, ['0'], ?_, ?_, rfl, ?_⟩
  · rw [positional_of_nonneg h]
    rfl
  · rw [List.all_append, List.all_append, all_isDigit_digitsOf, all_isDigit_zeros]
    decide
  · have hzero : valueOf ['0'] = 0 := rfl
    rw [valueOf_append, valueOf_append, valueOf_zeros, valueOf_digitsOf, hzero, length_zeros,
      Nat.pow_succ, ← Nat.mul_assoc]
    rfl

theorem dot_mem_positional_true (s : Scaled) : '.' ∈ s.positional true := by
  rcases Int.lt_or_le s.exponent 0 with h | h
  · exact (pointed_of_neg h true).dot_mem
  · exact (pointed_of_nonneg h).dot_mem

theorem dot_notMem_of_nonneg (h : 0 ≤ s.exponent) : '.' ∉ s.positional false := by
  apply dot_notMem_of_digits
  rw [positional_of_nonneg h, List.all_append, List.all_append, all_isDigit_digitsOf,
    all_isDigit_zeros]
  rfl

theorem exponent_notMem_positional (fraction : Bool) : 'e' ∉ s.positional fraction := by
  intro h
  rcases mem_positionalText h with hc | hc | hc
  · exact absurd hc (by decide)
  · exact absurd hc (by decide)
  · exact absurd (List.all_eq_true.1 (all_isDigit_digitsOf s.coefficient) _ hc) (by decide)

end Scaled

theorem exponent_mem_scientificText {digits : List Char} (h : digits ≠ []) (places : Int) :
    'e' ∈ scientificText digits places := by
  cases digits with
  | nil => exact absurd rfl h
  | cons d ds => cases ds <;> simp [scientificText, exponentText]

theorem plainMagnitude_eq {b : Binary} (h : b.mantissa ≠ 0) :
    plainLayout.magnitude b = (shortest true b).positional false := by
  rw [Layout.magnitude, if_neg h]
  rfl

theorem jsonMagnitude_eq {b : Binary} (h : b.mantissa ≠ 0) :
    jsonLayout.magnitude b =
      if jsonLayout.positional (shortest false b).places then (shortest false b).positional true
      else scientificText (digitsOf (shortest false b).coefficient) (shortest false b).places := by
  rw [Layout.magnitude, if_neg h]
  rfl

/-- The shortest decimal ends in digits after the point, whichever way ties go, and its
text in JSON has no exponent. -/
def SameText (b : Binary) : Prop :=
  shortest false b = shortest true b ∧ (shortest true b).exponent < 0 ∧
    jsonLayout.positional (shortest true b).places = true

/-- If the decimal of one rule loses all its zeros and the decimal of the other keeps
digits after the point, the two are neighbours, so that the other has no zero to lose. -/
theorem last_digit_of_ties {b : Binary} (hfalse : 0 ≤ (shortest false b).exponent)
    (htrue : (shortest true b).exponent < 0) : (shortest true b).coefficient % 10 ≠ 0 := by
  rcases shortest_ties b with hsame | ⟨c, c', k, hf, ht, hc⟩
  · rw [hsame] at hfalse
    omega
  · obtain ⟨j, hje, hjc⟩ := Scaled.stripped_spec 20 ⟨c, k⟩
    obtain ⟨j', hje', hjc'⟩ := Scaled.stripped_spec 20 ⟨c', k⟩
    rw [hf, hje] at hfalse
    rw [ht, hje'] at htrue
    dsimp only at hfalse htrue hjc hjc'
    have hdivides : 10 ∣ c := by
      rw [← hjc]
      exact Dvd.dvd.mul_left (dvd_pow_self 10 (by omega)) _
    have hlast : c' % 10 ≠ 0 := by omega
    rw [ht, Scaled.stripped_of_ne hlast]
    exact hlast

theorem shortest_eq_of_positional {b : Binary}
    (h : (shortest false b).positional true = (shortest true b).positional false) :
    shortest false b = shortest true b ∧ (shortest true b).exponent < 0 := by
  have htrue : (shortest true b).exponent < 0 := by
    by_contra hnonneg
    have hnone := Scaled.dot_notMem_of_nonneg (Int.not_lt.1 hnonneg)
    rw [← h] at hnone
    exact hnone (shortest false b).dot_mem_positional_true
  have ht := Scaled.pointed_of_neg htrue false
  refine ⟨?_, htrue⟩
  rcases Int.lt_or_le (shortest false b).exponent 0 with hfalse | hfalse
  · have hs := Scaled.pointed_of_neg hfalse true
    rw [h] at hs
    exact hs.unique ht
  · -- the zero behind the point would be the last digit of a coefficient that has no such
    have hs := Scaled.pointed_of_nonneg hfalse
    rw [h] at hs
    have hlast := last_digit_of_ties hfalse htrue
    rw [ht.unique hs, Nat.pow_succ, ← Nat.mul_assoc] at hlast
    exact absurd (Nat.mul_mod_left _ 10) hlast

theorem magnitude_eq_iff {b : Binary} (h : b.mantissa ≠ 0) :
    jsonLayout.magnitude b = plainLayout.magnitude b ↔ SameText b := by
  rw [jsonMagnitude_eq h, plainMagnitude_eq h]
  constructor
  · intro heq
    split at heq
    · next hpositional =>
      obtain ⟨hsame, hneg⟩ := shortest_eq_of_positional heq
      rw [hsame] at hpositional
      exact ⟨hsame, hneg, hpositional⟩
    · have hmem := exponent_mem_scientificText (digitsOf_ne_nil (shortest false b).coefficient)
        (shortest false b).places
      rw [heq] at hmem
      exact absurd hmem (Scaled.exponent_notMem_positional false)
  · rintro ⟨hsame, hneg, hpositional⟩
    rw [hsame, if_pos hpositional]
    exact Scaled.positional_of_neg hneg

end OrgPipeline.Decimal
