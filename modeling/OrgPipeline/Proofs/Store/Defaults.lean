import OrgPipeline.Proofs.Decimal.Texts
import OrgPipeline.Proofs.Pipeline.Setup

/-!
# Supplied values and defaults

A scalar that is supplied for an input and the same scalar as its declared default are
stored as one text when they are texts or booleans. A number is printed as JSON on the
one way and as a parameter on the other, so that it depends on the shape of the number
whether the two agree.
-/

set_option autoImplicit false

namespace OrgPipeline.Store

open Decimal (SameInteger SameText Stands)

def SameOnBothWays : Json → Prop
  | .num (.int n) => n = 0 ∨ SameInteger n
  | .num (.float x) => ¬ Stands x 0 ∧ SameText (.ofFloat x)
  | _ => True

theorem sameOnBothWays_num_iff {n : Number} (h : n.toFloat.isFinite = true) :
    SameOnBothWays (.num n) ↔ n.text = Param.numberText n.toFloat := by
  cases n with
  | int n => exact (Decimal.toString_eq_numberText_iff h).symm
  | float x => exact (Decimal.jsonText_eq_numberText_iff h).symm

variable {v : Json} {p : Param} (hp : Param.ofJson v = .ok p)
  (hfinite : ∀ x, p = .number x → x.isFinite = true) (env : Environment)

include hp hfinite

/-- A number is the same on both ways by its text, a text because it is resolved on both. -/
theorem suppliedScalar_eq_iff (s : Store) :
    ((suppliedScalar env v s).1 = (scalarOf env p s).1 ↔ SameOnBothWays v) ∧
      (SameOnBothWays v → suppliedScalar env v = scalarOf env p) := by
  cases v with
  | bool b =>
    obtain rfl : Param.bool b = p := Except.ok.inj hp
    exact ⟨iff_of_true rfl trivial, fun _ => rfl⟩
  | str t =>
    obtain rfl : Param.text t = p := Except.ok.inj hp
    exact ⟨iff_of_true rfl trivial, fun _ => rfl⟩
  | num n =>
    obtain rfl : Param.number n.toFloat = p := Except.ok.inj hp
    have htext := sameOnBothWays_num_iff (hfinite _ rfl)
    rw [htext]
    constructor
    · change some n.text = some (Param.numberText n.toFloat) ↔ _
      rw [Option.some.injEq]
    · intro hsame
      change pure (some n.text) = pure (some (Param.numberText n.toFloat))
      rw [hsame]
  | null => cases hp
  | arr items => cases hp
  | obj members => cases hp

/-- What a scalar leaves in an input, supplied or as its default, is the same text for
texts and booleans, and for numbers in the shapes of `SameOnBothWays`. Of these are all
integers below two to the fifty-third; a whole number that has a fraction is not. -/
theorem setInput_default_iff (input : InputDeclaration) (s : Store) :
    ((setInput env input (some v) s).2.inputs.get? input.id =
        (setInput env { input with default := some p } none s).2.inputs.get? input.id ↔
      SameOnBothWays v) ∧
    (SameOnBothWays v →
      setInput env input (some v) s = setInput env { input with default := some p } none s) ∧
    (∀ n, v = .num (.int n) → n.natAbs < 2 ^ 53 → SameOnBothWays v) ∧
    (∀ x n, v = .num (.float x) → Stands x n → n.natAbs < 2 ^ 53 → ¬ SameOnBothWays v) := by
  obtain ⟨hvalue, hsame⟩ := suppliedScalar_eq_iff hp hfinite env s
  refine ⟨?_, ?_, ?_, ?_⟩
  · rw [setInput_inputs, setInput_inputs, Table.get?_insert, Table.get?_insert, if_pos rfl,
      if_pos rfl, Option.some.injEq]
    exact hvalue
  · intro h
    rw [setInput_eq, setInput_eq, inputValue, inputValue, hsame h]
  · rintro n rfl hn
    rcases eq_or_ne n 0 with rfl | h0
    · exact Or.inl rfl
    · exact Or.inr (Decimal.sameInteger_of_lt h0 hn)
  · rintro x n rfl hx hn ⟨hzero, htext⟩
    rcases eq_or_ne n 0 with rfl | h0
    · exact hzero hx
    · exact Decimal.not_sameText_whole hx h0 hn htext

omit hp hfinite

/-- A one with a fraction is stored with it when it is supplied, and without it when it
is the default. -/
theorem setInput_one_with_fraction :
    let env : Environment := fun _ => none
    let one := Decimal.ofNat 1
    (setInput env ⟨"x", none, none⟩ (some (.float one)) .empty).2.inputs.get? "x" =
        some (some "1.0") ∧
      (setInput env ⟨"x", some (.number one), none⟩ none .empty).2.inputs.get? "x" =
        some (some "1") ∧
      ¬ SameOnBothWays (.float one) := by
  intro env one
  have hone : Stands one (1 : Nat) := Decimal.stands_ofNat (by decide)
  obtain ⟨-, -, -, hwhole⟩ :=
    setInput_default_iff (v := .float one) rfl (by rintro x h; cases h; decide +kernel) env
      ⟨"x", none, none⟩ .empty
  exact ⟨by decide +kernel, by decide +kernel, hwhole one 1 rfl hone (by decide)⟩

end OrgPipeline.Store
