import Mathlib.Data.List.TakeWhile
import OrgPipeline.Json.Reader
import OrgPipeline.Proofs.Text.Trim

/-!
# Literals and their texts

A boolean, or a number that is read as an integer, is printed as it was written,
without the blanks around it: no digit is lost and none is added. Numbers with a
fraction or an exponent, or with too many digits, are not of this kind.
-/

set_option autoImplicit false

namespace OrgPipeline

namespace Decimal

theorem digitChar_digitValue {c : Char} (h : isDigit c = true) :
    Nat.digitChar (digitValue c) = c := by
  rw [isDigit, Bool.and_eq_true, decide_eq_true_eq, decide_eq_true_eq] at h
  obtain ⟨hlow, hhigh⟩ := h
  change 48 ≤ c.toNat at hlow
  change c.toNat ≤ 57 at hhigh
  have hvalue : digitValue c = c.toNat - 48 := rfl
  apply Char.toNat_inj.1
  rw [hvalue, Nat.toNat_digitChar_of_lt_ten (by omega)]
  omega

theorem digitValue_lt {c : Char} (h : isDigit c = true) : digitValue c < 10 := by
  rw [isDigit, Bool.and_eq_true, decide_eq_true_eq, decide_eq_true_eq] at h
  have hhigh : c.toNat ≤ 57 := h.2
  have hvalue : digitValue c = c.toNat - 48 := rfl
  omega

theorem digitValue_pos {c : Char} (h : isDigit c = true) (hzero : c ≠ '0') : 0 < digitValue c := by
  rw [Nat.pos_iff_ne_zero]
  intro hvalue
  apply hzero
  rw [← digitChar_digitValue h, hvalue]
  rfl

end Decimal

namespace Json

/-- The digits of a positive number with those taken after them are the digits of
the number that comes out. -/
theorem takeDigits_toDigits {bound n count m taken : Nat} {cs rest : List Char} (hn : 0 < n)
    (h : takeDigits bound n count cs = (m, taken, rest)) :
    ∃ digits, cs = digits ++ rest ∧ Nat.toDigits 10 n ++ digits = Nat.toDigits 10 m := by
  induction cs generalizing n count with
  | nil =>
    cases h
    exact ⟨[], rfl, List.append_nil _⟩
  | cons c cs ih =>
    rw [takeDigits] at h
    by_cases hc : Decimal.isDigit c = true
    · rw [if_pos hc] at h
      dsimp only at h
      by_cases hbound : n * 10 + Decimal.digitValue c ≤ bound
      · rw [if_pos hbound] at h
        obtain ⟨digits, hcs, hdigits⟩ := ih (by omega) h
        refine ⟨c :: digits, by rw [hcs, List.cons_append], ?_⟩
        have hvalue := Decimal.digitValue_lt hc
        have happend := Nat.toDigits_append_toDigits (b := 10) (by decide) hn hvalue
        rw [Nat.toDigits_of_lt_base hvalue, Decimal.digitChar_digitValue hc,
          Nat.mul_comm] at happend
        rw [← hdigits, ← happend, List.append_assoc, List.singleton_append]
      · rw [if_neg hbound] at h
        cases h
        exact ⟨[], rfl, List.append_nil _⟩
    · rw [if_neg hc] at h
      cases h
      exact ⟨[], rfl, List.append_nil _⟩

theorem takeDigits_start {bound m taken : Nat} {c : Char} {cs rest : List Char}
    (hbound : 9 ≤ bound) (hc : Decimal.isDigit c = true) (hzero : c ≠ '0')
    (h : takeDigits bound 0 0 (c :: cs) = (m, taken, rest)) :
    0 < m ∧ c :: cs = Nat.toDigits 10 m ++ rest := by
  have hvalue := Decimal.digitValue_lt hc
  have hpos := Decimal.digitValue_pos hc hzero
  rw [takeDigits, if_pos hc] at h
  dsimp only at h
  rw [Nat.zero_mul, Nat.zero_add, if_pos (by omega)] at h
  obtain ⟨digits, hcs, hdigits⟩ := takeDigits_toDigits hpos h
  rw [Nat.toDigits_of_lt_base hvalue, Decimal.digitChar_digitValue hc] at hdigits
  constructor
  · rw [Nat.pos_iff_ne_zero]
    rintro rfl
    rw [Nat.toDigits_zero, List.singleton_append, List.cons.injEq] at hdigits
    exact hzero hdigits.1
  · rw [hcs, ← hdigits, List.append_assoc, List.singleton_append]

def IsInt (r : Option (Number × List Char)) : Prop := ∃ n rest, r = some (.int n, rest)

theorem not_isInt_none : ¬ IsInt none := by
  rintro ⟨n, rest, ⟨⟩⟩

theorem not_isInt_floatOf (negative : Bool) (f : Float) (rest : List Char) :
    ¬ IsInt (some (floatOf negative f, rest)) := by
  rintro ⟨n, rest', h⟩
  cases h

theorem not_isInt_scale (negative : Bool) (significand : Nat) (exponent : Int)
    (rest : List Char) :
    ¬ IsInt ((scale? significand exponent).map fun f => (floatOf negative f, rest)) := by
  cases scale? significand exponent with
  | none => exact not_isInt_none
  | some f => exact not_isInt_floatOf negative f rest

theorem not_isInt_exponentOf (negative : Bool) (significand : Nat) (start : Int)
    (cs : List Char) : ¬ IsInt (exponentOf negative significand start cs) := by
  unfold exponentOf
  split
  split
  · split
    split
    · split
      · exact not_isInt_floatOf _ _ _
      · exact not_isInt_none
    · exact not_isInt_scale _ _ _ _
  · exact not_isInt_none

theorem not_isInt_scaledOrExponent (negative : Bool) (significand : Nat) (exponent : Int)
    (cs : List Char) : ¬ IsInt (scaledOrExponent negative significand exponent cs) := by
  unfold scaledOrExponent
  split
  · exact not_isInt_exponentOf _ _ _ _
  · exact not_isInt_exponentOf _ _ _ _
  · exact not_isInt_scale _ _ _ _

theorem not_isInt_fractionOf (negative : Bool) (significand : Nat) (exponent : Int)
    (cs : List Char) : ¬ IsInt (fractionOf negative significand exponent cs) := by
  unfold fractionOf
  split
  · split
    dsimp only
    split
    · exact not_isInt_scaledOrExponent _ _ _ _
    · exact not_isInt_scaledOrExponent _ _ _ _
  · exact not_isInt_none

theorem not_isInt_afterLongInteger (negative : Bool) (n : Nat) (cs : List Char) :
    ¬ IsInt (afterLongInteger negative n cs) := by
  unfold afterLongInteger
  dsimp only
  split
  · exact not_isInt_fractionOf _ _ _ _
  · exact not_isInt_scaledOrExponent _ _ _ _

theorem afterInteger_int {negative : Bool} {n : Nat} {cs rest : List Char} {k : Int}
    (h : afterInteger negative n cs = some (.int k, rest)) :
    rest = cs ∧ k = (if negative then -(n : Int) else n) ∧ (negative = true → n ≠ 0) := by
  unfold afterInteger at h
  split at h
  · exact absurd ⟨k, rest, h⟩ (not_isInt_fractionOf _ _ _ _)
  · exact absurd ⟨k, rest, h⟩ (not_isInt_exponentOf _ _ _ _)
  · exact absurd ⟨k, rest, h⟩ (not_isInt_exponentOf _ _ _ _)
  · cases negative with
    | false =>
      cases h
      exact ⟨rfl, rfl, nofun⟩
    | true =>
      rw [if_pos rfl] at h
      split at h
      · exact absurd ⟨k, rest, h⟩ (not_isInt_floatOf _ _ _)
      · next hn =>
        cases h
        exact ⟨rfl, rfl, fun _ hzero => hn (Or.inl hzero)⟩

theorem magnitude?_int {negative : Bool} {cs rest : List Char} {k : Int}
    (h : magnitude? negative cs = some (.int k, rest)) :
    ∃ m : Nat, cs = Nat.toDigits 10 m ++ rest ∧ k = (if negative then -(m : Int) else m) ∧
      (negative = true → m ≠ 0) := by
  unfold magnitude? at h
  split at h
  · split at h
    · cases h
    · obtain ⟨rfl, hk⟩ := afterInteger_int h
      exact ⟨0, rfl, hk⟩
  · next hzero =>
    split at h
    · next hdigit =>
      rcases htaken : takeDigits maxUnsigned 0 0 cs with ⟨m, taken, others⟩
      rw [htaken] at h
      dsimp only at h
      split at h
      · exact absurd ⟨k, rest, h⟩ (not_isInt_afterLongInteger _ _ _)
      · obtain ⟨rfl, hk⟩ := afterInteger_int h
        cases cs with
        | nil => cases hdigit
        | cons c cs =>
          have hc : c ≠ '0' := by
            rintro rfl
            exact hzero cs rfl
          exact ⟨m, (takeDigits_start (by decide) hdigit hc htaken).2, hk⟩
    · cases h

theorem toList_toString_nat (m : Nat) : (toString (m : Int)).toList = Nat.toDigits 10 m := by
  rw [Int.toString_eq_repr, Int.repr_eq_if, if_pos (Int.natCast_nonneg m)]
  simp [Nat.repr]

theorem toList_toString_neg {m : Nat} (h : m ≠ 0) :
    (toString (-(m : Int))).toList = '-' :: Nat.toDigits 10 m := by
  rw [Int.toString_eq_repr, Int.repr_eq_if, if_neg (by omega)]
  simp [Nat.repr]

theorem number?_int {cs rest : List Char} {n : Int} (h : number? cs = some (.int n, rest)) :
    cs = (toString n).toList ++ rest := by
  unfold number? at h
  split at h
  · obtain ⟨m, hcs, hn, hne⟩ := magnitude?_int h
    rw [hn, if_pos rfl, toList_toString_neg (hne rfl), hcs, List.cons_append]
  · obtain ⟨m, hcs, hn, -⟩ := magnitude?_int h
    rw [hn, if_neg Bool.false_ne_true, toList_toString_nat, hcs]

def trim (text : String) : String := String.ofList (Text.trimList isSpace text.toList)

theorem literal?_eq {word : String} {v u : Json} {cs rest : List Char}
    (h : literal? word v cs = some (u, rest)) : cs = word.toList ++ rest ∧ u = v := by
  unfold literal? at h
  obtain ⟨others, hothers, hpair⟩ := Option.map_eq_some_iff.1 h
  cases hpair
  exact ⟨Text.afterList_eq_some hothers, rfl⟩

def LiteralAt (cs rest : List Char) : Json → Prop
  | .bool b => cs = (if b then "true" else "false").toList ++ rest
  | .num n => number? cs = some (n, rest)
  | .null | .str _ | .arr _ | .obj _ => True

theorem value?_literal {fuel depth : Nat} {cs rest : List Char} {v : Json}
    (h : value? fuel depth cs = some (v, rest)) : LiteralAt (skipSpace cs) rest v := by
  cases fuel with
  | zero => cases h
  | succ fuel =>
    unfold value? at h
    split at h
    · cases h
    · obtain ⟨_, _, hpair⟩ := Option.map_eq_some_iff.1 h
      cases hpair
      trivial
    · split at h
      · cases h
      · split at h
        · cases h
          trivial
        · obtain ⟨_, _, hpair⟩ := Option.map_eq_some_iff.1 h
          cases hpair
          trivial
    · split at h
      · cases h
      · split at h
        · cases h
          trivial
        · obtain ⟨_, _, hpair⟩ := Option.map_eq_some_iff.1 h
          cases hpair
          trivial
    · next hcs =>
      obtain ⟨hword, rfl⟩ := literal?_eq h
      rw [hcs, hword]
      rfl
    · next hcs =>
      obtain ⟨hword, rfl⟩ := literal?_eq h
      rw [hcs, hword]
      rfl
    · obtain ⟨-, rfl⟩ := literal?_eq h
      trivial
    · obtain ⟨⟨n, others⟩, hn, hpair⟩ := Option.map_eq_some_iff.1 h
      cases hpair
      exact hn

theorem read_literal {text : String} {v : Json} (h : read text = some v) :
    ∃ rest, skipSpace rest = [] ∧ LiteralAt (skipSpace text.toList) rest v := by
  unfold read readList at h
  obtain ⟨⟨u, rest⟩, hvalue, hend⟩ := Option.bind_eq_some_iff.1 h
  dsimp only at hend
  split at hend
  · next hrest =>
    cases hend
    exact ⟨rest, List.isEmpty_iff.1 hrest, value?_literal hvalue⟩
  · cases hend

theorem trim_eq {text word : String} {rest : List Char}
    (hcs : skipSpace text.toList = word.toList ++ rest) (hrest : skipSpace rest = [])
    (hword : Text.EndsOutside isSpace word.toList) : trim text = word := by
  have hblank : rest.all isSpace = true := List.all_eq_true.2 (List.dropWhile_eq_nil_iff.1 hrest)
  have htrimmed : Text.trimList isSpace text.toList = word.toList := by
    change Text.dropEndWhile isSpace (skipSpace text.toList) = _
    rw [hcs, Text.dropEndWhile_append isSpace _ _ hblank, Text.dropEndWhile_eq_self hword]
  rw [trim, htrimmed, String.ofList_toList]

theorem isSpace_of_mem_toDigits {m : Nat} {c : Char} (h : c ∈ Nat.toDigits 10 m) :
    isSpace c = false := by
  have hdigit := Nat.isDigit_of_mem_toDigits (by decide) (by decide) h
  by_contra hspace
  simp only [isSpace, Bool.not_eq_false, Bool.or_eq_true, beq_iff_eq] at hspace
  rcases hspace with ((rfl | rfl) | rfl) | rfl <;> revert hdigit <;> decide

theorem endsOutside_toString (n : Int) : Text.EndsOutside isSpace (toString n).toList := by
  intro c hc
  have hmem := List.mem_of_getLast? hc
  obtain ⟨m, rfl | rfl⟩ := n.eq_nat_or_neg
  · rw [toList_toString_nat] at hmem
    exact isSpace_of_mem_toDigits hmem
  · by_cases hm : m = 0
    · subst hm
      exact isSpace_of_mem_toDigits (toList_toString_nat 0 ▸ hmem)
    · rw [toList_toString_neg hm, List.mem_cons] at hmem
      rcases hmem with rfl | hdigit
      · decide
      · exact isSpace_of_mem_toDigits hdigit

theorem trim_bool {text : String} {b : Bool} (h : read text = some (.bool b)) :
    trim text = if b then "true" else "false" := by
  obtain ⟨rest, hrest, hliteral⟩ := read_literal h
  apply trim_eq hliteral hrest
  cases b with
  | true => intro c hc; cases hc; decide
  | false => intro c hc; cases hc; decide

theorem trim_int {text : String} {n : Int} (h : read text = some (.num (.int n))) :
    trim text = toString n := by
  obtain ⟨rest, hrest, hliteral⟩ := read_literal h
  exact trim_eq (number?_int hliteral) hrest (endsOutside_toString n)

end Json
end OrgPipeline
