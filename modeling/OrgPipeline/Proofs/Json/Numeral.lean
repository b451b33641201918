import OrgPipeline.Proofs.Decimal.Digits
import OrgPipeline.Proofs.Json.Literal

/-!
# The form of numbers

A number is an optional minus sign, an integer without a zero ahead of other digits, an
optional fraction and an optional exponent. The reader takes nothing else for a number,
and it takes every integer that 64 bits hold, signed or not, for what it is.
-/

set_option autoImplicit false

namespace OrgPipeline.Json

inductive Digits : List Char → List Char → Prop
  | mk {digits : List Char} (rest : List Char) (nonempty : digits ≠ [])
    (all : digits.all Decimal.isDigit = true) : Digits (digits ++ rest) rest

inductive WholeForm : List Char → List Char → Prop
  | zero (rest : List Char) : WholeForm ('0' :: rest) rest
  | digits {cs rest : List Char} (h : Digits cs rest) (nonzero : cs.head? ≠ some '0') :
    WholeForm cs rest

inductive FractionForm : List Char → List Char → Prop
  | absent (cs : List Char) : FractionForm cs cs
  | present {cs rest : List Char} (h : Digits cs rest) : FractionForm ('.' :: cs) rest

inductive ExponentForm : List Char → List Char → Prop
  | absent (cs : List Char) : ExponentForm cs cs
  | present {letter : Char} {cs rest : List Char} (hletter : letter = 'e' ∨ letter = 'E')
    (h : Digits cs rest) : ExponentForm (letter :: cs) rest
  | signed {letter sign : Char} {cs rest : List Char} (hletter : letter = 'e' ∨ letter = 'E')
    (hsign : sign = '+' ∨ sign = '-') (h : Digits cs rest) :
    ExponentForm (letter :: sign :: cs) rest

inductive Magnitude : List Char → List Char → Prop
  | mk {cs mid after rest : List Char} (whole : WholeForm cs mid)
    (fraction : FractionForm mid after) (exponent : ExponentForm after rest) : Magnitude cs rest

inductive Numeral : List Char → List Char → Prop
  | unsigned {cs rest : List Char} (h : Magnitude cs rest) : Numeral cs rest
  | negative {cs rest : List Char} (h : Magnitude cs rest) : Numeral ('-' :: cs) rest

theorem Digits.length_lt {cs rest : List Char} (h : Digits cs rest) : rest.length < cs.length := by
  cases h with
  | mk _ nonempty all =>
    have hpos := List.length_pos_iff.2 nonempty
    rw [List.length_append]
    omega

theorem WholeForm.length_lt {cs rest : List Char} (h : WholeForm cs rest) :
    rest.length < cs.length := by
  cases h with
  | zero => exact Nat.lt_succ_self _
  | digits h nonzero => exact h.length_lt

theorem FractionForm.length_le {cs rest : List Char} (h : FractionForm cs rest) :
    rest.length ≤ cs.length := by
  cases h with
  | absent => exact Nat.le_refl _
  | present h => exact Nat.le_succ_of_le h.length_lt.le

theorem ExponentForm.length_le {cs rest : List Char} (h : ExponentForm cs rest) :
    rest.length ≤ cs.length := by
  cases h with
  | absent => exact Nat.le_refl _
  | present hletter h => exact Nat.le_succ_of_le h.length_lt.le
  | signed hletter hsign h => exact Nat.le_succ_of_le (Nat.le_succ_of_le h.length_lt.le)

theorem Magnitude.length_lt {cs rest : List Char} (h : Magnitude cs rest) :
    rest.length < cs.length := by
  cases h with
  | mk whole fraction exponent =>
    have hwhole := whole.length_lt
    have hfraction := fraction.length_le
    have hexponent := exponent.length_le
    omega

theorem Numeral.length_lt {cs rest : List Char} (h : Numeral cs rest) :
    rest.length < cs.length := by
  cases h with
  | unsigned h => exact h.length_lt
  | negative h => exact Nat.lt_succ_of_lt h.length_lt

theorem digits_dropWhile {cs : List Char} (h : startsWithDigit cs = true) :
    Digits cs (cs.dropWhile Decimal.isDigit) := by
  have hdigits : Digits (cs.takeWhile Decimal.isDigit ++ cs.dropWhile Decimal.isDigit)
      (cs.dropWhile Decimal.isDigit) := by
    apply Digits.mk
    · cases cs with
      | nil => cases h
      | cons c cs =>
        have hc : Decimal.isDigit c = true := h
        rw [List.takeWhile_cons_of_pos hc]
        exact List.cons_ne_nil _ _
    · exact List.all_takeWhile
  rwa [List.takeWhile_append_dropWhile] at hdigits

theorem dropWhile_of_not_startsWithDigit {cs : List Char} (h : ¬ startsWithDigit cs = true) :
    cs.dropWhile Decimal.isDigit = cs := by
  cases cs with
  | nil => rfl
  | cons c cs => exact List.dropWhile_cons_of_neg h

theorem dropWhile_takeDigits {bound n count m taken : Nat} {cs rest : List Char}
    (h : takeDigits bound n count cs = (m, taken, rest)) :
    rest.dropWhile Decimal.isDigit = cs.dropWhile Decimal.isDigit := by
  induction cs generalizing n count with
  | nil =>
    cases h
    rfl
  | cons c cs ih =>
    rw [takeDigits] at h
    by_cases hc : Decimal.isDigit c = true
    · rw [if_pos hc] at h
      dsimp only at h
      by_cases hbound : n * 10 + Decimal.digitValue c ≤ bound
      · rw [if_pos hbound] at h
        rw [ih h, List.dropWhile_cons_of_pos hc]
      · rw [if_neg hbound] at h
        cases h
        rfl
    · rw [if_neg hc] at h
      cases h
      rfl

theorem exponentOf_form {negative : Bool} {significand : Nat} {start : Int} {letter : Char}
    {cs rest : List Char} {n : Number} (hletter : letter = 'e' ∨ letter = 'E')
    (h : exponentOf negative significand start cs = some (n, rest)) :
    ExponentForm (letter :: cs) rest := by
  unfold exponentOf at h
  split at h
  next down digits hsign =>
  have hform : Digits digits rest := by
    by_cases hdigit : startsWithDigit digits = true
    · rw [if_pos hdigit] at h
      have hall := digits_dropWhile hdigit
      rcases htaken : takeDigits maxExponent 0 0 digits with ⟨e, taken, others⟩
      rw [← dropWhile_takeDigits htaken] at hall
      rw [htaken] at h
      dsimp only at h
      by_cases hmore : startsWithDigit others = true
      · rw [if_pos hmore] at h
        split at h
        · cases h
          exact hall
        · cases h
      · rw [if_neg hmore] at h
        obtain ⟨f, -, heq⟩ := Option.map_eq_some_iff.1 h
        cases heq
        rwa [dropWhile_of_not_startsWithDigit hmore] at hall
    · rw [if_neg hdigit] at h
      cases h
  split at hsign
  · cases hsign
    exact .signed hletter (Or.inr rfl) hform
  · cases hsign
    exact .signed hletter (Or.inl rfl) hform
  · cases hsign
    exact .present hletter hform

theorem scaledOrExponent_form {negative : Bool} {significand : Nat} {exponent : Int}
    {cs rest : List Char} {n : Number}
    (h : scaledOrExponent negative significand exponent cs = some (n, rest)) :
    ExponentForm cs rest := by
  unfold scaledOrExponent at h
  split at h
  · exact exponentOf_form (Or.inl rfl) h
  · exact exponentOf_form (Or.inr rfl) h
  · obtain ⟨f, -, heq⟩ := Option.map_eq_some_iff.1 h
    cases heq
    exact .absent _

theorem fractionOf_form {negative : Bool} {significand : Nat} {exponent : Int}
    {cs rest : List Char} {n : Number}
    (h : fractionOf negative significand exponent cs = some (n, rest)) :
    ∃ after, FractionForm ('.' :: cs) after ∧ ExponentForm after rest := by
  unfold fractionOf at h
  by_cases hdigit : startsWithDigit cs = true
  · rw [if_pos hdigit] at h
    have hform := digits_dropWhile hdigit
    rcases htaken : takeDigits maxUnsigned significand 0 cs with ⟨m, taken, others⟩
    rw [← dropWhile_takeDigits htaken] at hform
    rw [htaken] at h
    dsimp only at h
    refine ⟨_, .present hform, ?_⟩
    by_cases hmore : startsWithDigit others = true
    · rw [if_pos hmore] at h
      exact scaledOrExponent_form h
    · rw [if_neg hmore] at h
      rw [dropWhile_of_not_startsWithDigit hmore]
      exact scaledOrExponent_form h
  · rw [if_neg hdigit] at h
    cases h

theorem afterInteger_form {negative : Bool} {m : Nat} {cs rest : List Char} {n : Number}
    (h : afterInteger negative m cs = some (n, rest)) :
    ∃ after, FractionForm cs after ∧ ExponentForm after rest := by
  unfold afterInteger at h
  split at h
  · exact fractionOf_form h
  · exact ⟨_, .absent _, exponentOf_form (Or.inl rfl) h⟩
  · exact ⟨_, .absent _, exponentOf_form (Or.inr rfl) h⟩
  · have hrest : rest = cs := by
      split at h
      · split at h <;> cases h <;> rfl
      · cases h
        rfl
    subst hrest
    exact ⟨_, .absent _, .absent _⟩

theorem afterLongInteger_form {negative : Bool} {m : Nat} {cs rest : List Char} {n : Number}
    (h : afterLongInteger negative m cs = some (n, rest)) :
    ∃ after, FractionForm (cs.dropWhile Decimal.isDigit) after ∧ ExponentForm after rest := by
  unfold afterLongInteger at h
  dsimp only at h
  split at h
  · next hcs =>
    rw [hcs]
    exact fractionOf_form h
  · exact ⟨_, .absent _, scaledOrExponent_form h⟩

theorem magnitude?_form {negative : Bool} {cs rest : List Char} {n : Number}
    (h : magnitude? negative cs = some (n, rest)) : Magnitude cs rest := by
  unfold magnitude? at h
  split at h
  · split at h
    · cases h
    · obtain ⟨after, hfraction, hexponent⟩ := afterInteger_form h
      exact .mk (.zero _) hfraction hexponent
  · next hzero =>
    by_cases hdigit : startsWithDigit cs = true
    · rw [if_pos hdigit] at h
      have hform := digits_dropWhile hdigit
      have hnonzero : cs.head? ≠ some '0' := by
        intro hhead
        obtain ⟨others, rfl⟩ := List.head?_eq_some_iff.1 hhead
        exact hzero others rfl
      rcases htaken : takeDigits maxUnsigned 0 0 cs with ⟨m, taken, others⟩
      rw [← dropWhile_takeDigits htaken] at hform
      rw [htaken] at h
      dsimp only at h
      by_cases hmore : startsWithDigit others = true
      · rw [if_pos hmore] at h
        obtain ⟨after, hfraction, hexponent⟩ := afterLongInteger_form h
        exact .mk (.digits hform hnonzero) hfraction hexponent
      · rw [if_neg hmore] at h
        rw [dropWhile_of_not_startsWithDigit hmore] at hform
        obtain ⟨after, hfraction, hexponent⟩ := afterInteger_form h
        exact .mk (.digits hform hnonzero) hfraction hexponent
    · rw [if_neg hdigit] at h
      cases h

theorem number?_form {cs rest : List Char} {n : Number} (h : number? cs = some (n, rest)) :
    Numeral cs rest := by
  unfold number? at h
  split at h
  · exact .negative (magnitude?_form h)
  · exact .unsigned (magnitude?_form h)

theorem le_foldl_digits (digits : List Char) (n : Nat) :
    n ≤ digits.foldl (fun n c => n * 10 + Decimal.digitValue c) n := by
  induction digits generalizing n with
  | nil => exact Nat.le_refl n
  | cons c digits ih =>
    have hstep := ih (n * 10 + Decimal.digitValue c)
    rw [List.foldl_cons]
    omega

theorem takeDigits_all {bound : Nat} {digits rest : List Char}
    (hdigits : digits.all Decimal.isDigit = true) (hrest : startsWithDigit rest = false)
    (n count : Nat) (h : digits.foldl (fun n c => n * 10 + Decimal.digitValue c) n ≤ bound) :
    takeDigits bound n count (digits ++ rest) =
      (digits.foldl (fun n c => n * 10 + Decimal.digitValue c) n, count + digits.length, rest) := by
  induction digits generalizing n count with
  | nil =>
    cases rest with
    | nil => rfl
    | cons c rest =>
      have hc : ¬ Decimal.isDigit c = true := by simpa [startsWithDigit] using hrest
      exact if_neg hc
  | cons c digits ih =>
    rw [List.all_cons, Bool.and_eq_true] at hdigits
    rw [List.foldl_cons] at h
    have hstep := le_foldl_digits digits (n * 10 + Decimal.digitValue c)
    rw [List.cons_append, takeDigits, if_pos hdigits.1]
    dsimp only
    rw [if_pos (by omega), ih hdigits.2 _ _ h, List.foldl_cons, List.length_cons]
    congr 2
    omega

theorem takeDigits_digitsOf {bound n : Nat} (h : n ≤ bound) {rest : List Char}
    (hrest : startsWithDigit rest = false) :
    takeDigits bound 0 0 (Decimal.digitsOf n ++ rest) = (n, (Decimal.digitsOf n).length, rest) := by
  have hvalue : (Decimal.digitsOf n).foldl (fun n c => n * 10 + Decimal.digitValue c) 0 = n :=
    Decimal.valueOf_digitsOf n
  rw [takeDigits_all (Decimal.all_isDigit_digitsOf n) hrest 0 0 (by omega), hvalue, Nat.zero_add]

theorem head?_digitsOf {n : Nat} (h : 0 < n) : (Decimal.digitsOf n).head? ≠ some '0' := by
  induction n using Nat.strongRecOn with
  | ind n ih =>
    by_cases hsmall : n < 10
    · have hone : ∀ m < 10, 0 < m → [Nat.digitChar m].head? ≠ some '0' := by decide
      rw [Decimal.digitsOf, Nat.toDigits_of_lt_base hsmall]
      exact hone n hsmall h
    · have hleading := ih (n / 10) (by omega) (by omega)
      obtain ⟨c, digits, hdigits⟩ := List.exists_cons_of_ne_nil (Decimal.digitsOf_ne_nil (n / 10))
      rw [hdigits] at hleading
      rw [Decimal.digitsOf] at hdigits
      rw [Decimal.digitsOf, Nat.toDigits_of_base_le (by decide) (by omega), hdigits]
      exact hleading

theorem magnitude?_digitsOf (negative : Bool) {n : Nat} (h : n ≤ maxUnsigned) {rest : List Char}
    (hrest : startsWithDigit rest = false) :
    magnitude? negative (Decimal.digitsOf n ++ rest) = afterInteger negative n rest := by
  by_cases hzero : n = 0
  · subst hzero
    change (if startsWithDigit rest then none else afterInteger negative 0 rest) = _
    rw [hrest, if_neg Bool.false_ne_true]
  · obtain ⟨c, digits, hdigits⟩ := List.exists_cons_of_ne_nil (Decimal.digitsOf_ne_nil n)
    have hhead := head?_digitsOf (Nat.pos_of_ne_zero hzero)
    have hdigit := Decimal.all_isDigit_digitsOf n
    rw [hdigits, List.all_cons, Bool.and_eq_true] at hdigit
    unfold magnitude?
    split
    · next others hcs =>
      rw [hdigits, List.cons_append, List.cons.injEq] at hcs
      rw [hdigits, hcs.1] at hhead
      exact absurd rfl hhead
    · have hstarts : startsWithDigit (Decimal.digitsOf n ++ rest) = true := by
        rw [hdigits]
        exact hdigit.1
      rw [if_pos hstarts, takeDigits_digitsOf h hrest]
      dsimp only
      rw [hrest, if_neg Bool.false_ne_true]

theorem number?_digitsOf (n : Nat) (rest : List Char) :
    number? (Decimal.digitsOf n ++ rest) = magnitude? false (Decimal.digitsOf n ++ rest) := by
  unfold number?
  split
  · next hcs =>
    obtain ⟨c, digits, hdigits⟩ := List.exists_cons_of_ne_nil (Decimal.digitsOf_ne_nil n)
    have hall := Decimal.all_isDigit_digitsOf n
    rw [hdigits, List.cons_append, List.cons.injEq] at hcs
    rw [hdigits, hcs.1] at hall
    cases hall
  · rfl

def Fits64 (n : Int) : Prop := -(Decimal.twoTo 63 : Int) ≤ n ∧ n < Decimal.twoTo 64

theorem number?_toString {n : Int} (h : Fits64 n) :
    number? (toString n).toList = some (.int n, []) := by
  have hsigned : maxSigned + 1 = Decimal.twoTo 63 := by decide
  have hunsigned : maxUnsigned + 1 = Decimal.twoTo 64 := by decide
  have htwice : Decimal.twoTo 64 = 2 * Decimal.twoTo 63 := by decide
  obtain ⟨hlow, hhigh⟩ := h
  obtain ⟨m, hn | hn⟩ := n.eq_nat_or_neg
  · subst hn
    have hnumber := number?_digitsOf m []
    rw [@magnitude?_digitsOf false m (by omega) [] rfl, List.append_nil] at hnumber
    rw [toList_toString_nat]
    exact hnumber
  · subst hn
    by_cases hm : m = 0
    · subst hm
      rfl
    · rw [toList_toString_neg hm]
      have hmagnitude := @magnitude?_digitsOf true m (by omega) [] rfl
      rw [List.append_nil] at hmagnitude
      have hwithin : ¬ (m = 0 ∨ maxSigned + 1 < m) := by omega
      have hafter : afterInteger true m [] = some (.int (-m), []) := by
        simp [afterInteger, hwithin]
      exact hmagnitude.trans hafter

end OrgPipeline.Json
