import Mathlib.Data.List.TakeWhile
import Mathlib.Tactic.ByContra
import OrgPipeline.Text.Blank

/-!
# Texts that trimming leaves alone

Trimming takes characters off at the ends only, so that a text keeps all of its
characters if neither its first nor its last one is of the class.
-/

set_option autoImplicit false

namespace OrgPipeline.Text

def EndsOutside (p : Char → Bool) (cs : List Char) : Prop :=
  ∀ c, cs.getLast? = some c → p c = false

variable {p : Char → Bool}

theorem endsOutside_append_cons {c : Char} (hc : p c = false) (a : List Char) {b : List Char}
    (hb : EndsOutside p b) : EndsOutside p (a ++ c :: b) := by
  intro d hd
  rw [List.getLast?_append, List.getLast?_cons, Option.some_or, Option.some.injEq] at hd
  cases hl : b.getLast? with
  | none =>
    rw [hl] at hd
    exact hd ▸ hc
  | some l =>
    rw [hl] at hd
    exact hd ▸ hb l hl

theorem dropEndWhile_eq_self {cs : List Char} (h : EndsOutside p cs) : dropEndWhile p cs = cs := by
  rcases List.eq_nil_or_concat cs with rfl | ⟨init, c, rfl⟩
  · rfl
  · have hc : p c = false := h c (by simp)
    simp [dropEndWhile, hc]

theorem endsOutside_dropEndWhile (p : Char → Bool) (cs : List Char) :
    EndsOutside p (dropEndWhile p cs) := by
  intro c hc
  rw [dropEndWhile, List.getLast?_reverse] at hc
  have hfirst := List.head?_dropWhile_not p cs.reverse
  rw [hc] at hfirst
  simpa using hfirst

theorem endsOutside_of_trim {s : String} (h : trim s = s) : EndsOutside isBlank s.toList := by
  rw [← h, trim, String.toList_ofList]
  exact endsOutside_dropEndWhile isBlank _

theorem trimList_eq_self {c : Char} {cs : List Char} (hc : p c = false)
    (h : EndsOutside p (c :: cs)) : trimList p (c :: cs) = c :: cs := by
  rw [trimList, List.dropWhile_cons_of_neg (by simp [hc]), dropEndWhile_eq_self h]

theorem trimList_padded {before core after : List Char} (hbefore : before.all p = true)
    (hafter : after.all p = true) (hbegin : ∀ c, core.head? = some c → p c = false)
    (hend : EndsOutside p core) : trimList p (before ++ core ++ after) = core := by
  have hall : ∀ c ∈ before, p c = true := List.all_eq_true.1 hbefore
  rw [trimList, List.append_assoc, List.dropWhile_append_of_pos hall]
  cases core with
  | nil =>
    rw [List.nil_append, List.dropWhile_eq_nil_iff.2 (List.all_eq_true.1 hafter)]
    rfl
  | cons c core =>
    have hc : ¬ p c = true := by simpa using hbegin c rfl
    rw [List.cons_append, List.dropWhile_cons_of_neg hc, ← List.cons_append,
      dropEndWhile_append p _ _ hafter, dropEndWhile_eq_self hend]

theorem all_of_trimList_eq_nil {cs : List Char} (h : trimList p cs = []) : cs.all p = true := by
  have hrest : cs.dropWhile p = [] := by
    by_contra hne
    have hfirst := List.head_dropWhile_not p hne
    rw [trimList, dropEndWhile, List.reverse_eq_nil_iff, List.dropWhile_eq_nil_iff] at h
    rw [h _ (List.mem_reverse.2 (List.head_mem hne))] at hfirst
    cases hfirst
  exact List.all_eq_true.2 (List.dropWhile_eq_nil_iff.1 hrest)

end OrgPipeline.Text
