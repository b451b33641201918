import OrgPipeline.Decimal.Reader
import OrgPipeline.Decimal.Shortest
import OrgPipeline.Proofs.Text.Trim

/-!
# Digits and what they count

Written digits are read back as the number they were written for, and zeros behind
them multiply it.
-/

set_option autoImplicit false

namespace OrgPipeline.Decimal

theorem valueOf_eq (digits : List Char) : valueOf digits = Nat.ofDigitChars 10 digits 0 := by
  rw [Nat.ofDigitChars_eq_foldl]
  unfold valueOf digitValue
  congr 1
  funext n c
  rw [Nat.mul_comm]

@[simp]
theorem valueOf_digitsOf (n : Nat) : valueOf (digitsOf n) = n := by
  rw [valueOf_eq]
  exact Nat.ofDigitChars_ten_toDigits

theorem all_isDigit_digitsOf (n : Nat) : (digitsOf n).all isDigit = true := by
  rw [List.all_eq_true]
  intro c hc
  exact Nat.isDigit_of_mem_toDigits (by decide) (by decide) hc

theorem digitsOf_ne_nil (n : Nat) : digitsOf n ≠ [] := Nat.toDigits_ne_nil

theorem not_isBlank_of_isDigit {c : Char} (h : isDigit c = true) : Text.isBlank c = false := by
  simp only [isDigit, Bool.and_eq_true, decide_eq_true_eq] at h
  have hlow : 48 ≤ c.toNat := h.1
  have hhigh : c.toNat ≤ 57 := h.2
  simp only [Text.isBlank, Bool.or_eq_false_iff, Bool.and_eq_false_iff, decide_eq_false_iff_not,
    beq_eq_false_iff_ne]
  omega

theorem trim_digits {s : String} (h : s.toList.all isDigit = true) : Text.trim s = s := by
  have hdigit : ∀ c ∈ s.toList, isDigit c = true := List.all_eq_true.1 h
  have hends : Text.EndsOutside Text.isBlank s.toList := fun c hc =>
    not_isBlank_of_isDigit (hdigit c (List.mem_of_getLast? hc))
  have hkept : Text.trimList Text.isBlank s.toList = s.toList := by
    cases hs : s.toList with
    | nil => rfl
    | cons c cs =>
      rw [hs] at hends hdigit
      exact Text.trimList_eq_self (not_isBlank_of_isDigit (hdigit c (List.mem_cons_self ..))) hends
  rw [Text.trim, hkept, String.ofList_toList]

theorem parts?_digits {cs : List Char} (hne : cs ≠ []) (h : cs.all isDigit = true) :
    parts? cs = some ⟨cs, [], 0⟩ := by
  have hdigit : ∀ c ∈ cs, isDigit c = true := List.all_eq_true.1 h
  have htake : cs.takeWhile isDigit = cs := List.takeWhile_eq_self_iff.2 hdigit
  have hdrop : cs.dropWhile isDigit = [] := List.dropWhile_eq_nil_iff.2 hdigit
  simp only [parts?, htake, hdrop, exponentPart]
  simp [hne]

theorem nearestDecimal_whole {n : Nat} (h : n < tenTo 200) :
    nearestDecimal false n 0 = ofNat n := by
  have hlength : (Nat.toDigits 10 n).length ≤ 200 :=
    (Nat.length_toDigits_le_iff (by decide) (by decide)).2 h
  rcases Nat.eq_zero_or_pos n with rfl | hpos
  · rfl
  · rw [nearestDecimal, if_neg (by unfold farPlaces; omega), if_neg (by unfold farPlaces; omega)]
    simp [tenTo, ofNat]

theorem read_digits {s : String} (hne : s ≠ "") (h : s.toList.all isDigit = true)
    (hvalue : valueOf s.toList < tenTo 200) : read s = some (ofNat (valueOf s.toList)) := by
  have hlist : s.toList ≠ [] := fun hnil => hne (String.toList_eq_nil_iff.1 hnil)
  have hparts : unsigned? false s.toList = some (ofNat (valueOf s.toList)) := by
    rw [unsigned?, parts?_digits hlist h]
    simp [Parts.value, nearestDecimal_whole hvalue]
  have hdigit : ∀ c ∈ s.toList, isDigit c = true := List.all_eq_true.1 h
  unfold read readList
  split
  · next hs => exact absurd (hdigit '-' (by simp [hs])) (by decide)
  · next hs => exact absurd (hdigit '+' (by simp [hs])) (by decide)
  · exact hparts

end OrgPipeline.Decimal
