import Mathlib.Data.Bool.AllAny
import Mathlib.Tactic.Tauto
import OrgPipeline.Param
import OrgPipeline.Proofs.Text.Lowercase

/-!
# Numbers are no words

The plain text of a number has digits, a point and a sign, or is one of three names, and
none of them spells a boolean.
-/

set_option autoImplicit false

namespace OrgPipeline

namespace Decimal

theorem mem_positionalText {fraction : Bool} {digits : List Char} {places : Int} {c : Char}
    (h : c ∈ positionalText fraction digits places) : c = '.' ∨ c = '0' ∨ c ∈ digits := by
  unfold positionalText zeros at h
  split at h
  · simp only [List.mem_cons, List.mem_append, List.mem_replicate] at h
    tauto
  · split at h
    · simp only [List.mem_cons, List.mem_append] at h
      rcases h with h | rfl | h
      · exact Or.inr (Or.inr (List.mem_of_mem_take h))
      · exact Or.inl rfl
      · exact Or.inr (Or.inr (List.mem_of_mem_drop h))
    · cases fraction <;> simp at h <;> tauto

theorem mem_magnitude {b : Binary} {c : Char} (h : c ∈ plainLayout.magnitude b) :
    c = '.' ∨ c.isDigit = true := by
  unfold Layout.magnitude at h
  split at h
  · obtain rfl := List.mem_singleton.1 h
    exact Or.inr rfl
  · replace h : c ∈ positionalText false (digitsOf (shortest true b).coefficient)
        ((shortest true b).exponent + (digitsOf (shortest true b).coefficient).length) := h
    rcases mem_positionalText h with rfl | rfl | hdigit
    · exact Or.inl rfl
    · exact Or.inr rfl
    · exact Or.inr (Nat.isDigit_of_mem_toDigits (by decide) (by decide) hdigit)

def marks : List Char := ['N', 'a', 'i', 'n', 'f', '-', '.']

theorem mem_plainText {x : Float} {c : Char} (h : c ∈ (plainLayout.text x).toList) :
    c ∈ marks ∨ c.isDigit = true := by
  unfold Layout.text at h
  split at h
  · exact Or.inl (List.all_iff_forall_prop.1 (by decide : "NaN".toList.all (· ∈ marks)) c h)
  · rw [String.toList_ofList, List.mem_append] at h
    rcases h with h | h
    · split at h
      · obtain rfl := List.mem_singleton.1 h
        exact Or.inl (by decide)
      · cases h
    · split at h
      · exact Or.inl (List.all_iff_forall_prop.1 (by decide : "inf".toList.all (· ∈ marks)) c h)
      · rcases mem_magnitude h with rfl | hdigit
        · exact Or.inl (by decide)
        · exact Or.inr hdigit

end Decimal

namespace Param

theorem toLower_ne_of_mem_numberText {x : Float} {c : Char} (h : c ∈ (numberText x).toList) :
    c.toLower ≠ 'e' := by
  unfold numberText at h
  split at h
  · exact List.all_iff_forall_prop.1 (by decide : "0".toList.all (·.toLower ≠ 'e')) c h
  · rcases Decimal.mem_plainText h with hmark | hdigit
    · exact List.all_iff_forall_prop.1 (by decide : Decimal.marks.all (·.toLower ≠ 'e')) c hmark
    · simp only [Char.isDigit, Bool.and_eq_true, decide_eq_true_eq] at hdigit
      have hle : c.toNat ≤ 57 := hdigit.2
      rw [Text.toLower_eq_self (by omega)]
      rintro rfl
      exact absurd hle (by decide)

theorem not_spelled_numberText (x : Float) (b : Bool) :
    (numberText x).toList.map Char.toLower ≠ (boolText b).toList := by
  intro h
  have he : 'e' ∈ (numberText x).toList.map Char.toLower := by
    rw [h]
    cases b <;> decide
  obtain ⟨c, hc, hlower⟩ := List.mem_map.1 he
  exact toLower_ne_of_mem_numberText hc hlower

end Param
end OrgPipeline
