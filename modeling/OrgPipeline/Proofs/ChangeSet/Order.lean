import OrgPipeline.Proofs.ChangeSet.Counts

/-!
# Which members change, and in which order

The difference of two lists of components loses first occurrences and keeps the
others in order. So a difference of manifests read backwards deletes what it adds, and
the types follow as they first come.
-/

set_option autoImplicit false

namespace OrgPipeline
namespace ChangeSet

section
variable {α : Type} [BEq α]

def behindFirst (n : α → Nat) (xs : List α) : List α :=
  (xs.zipIdx.filter fun p => n p.1 ≤ (xs.take p.2).count p.1).map Prod.fst

theorem behindFirst_cons (n : α → Nat) (x : α) (xs : List α) :
    behindFirst n (x :: xs) =
      (if n x = 0 then [x] else []) ++ behindFirst (fun y => n y - [x].count y) xs := by
  -- the positions of the others are one further on, and `x` is ahead of them
  have hrest : ((xs.zipIdx 1).filter fun p => n p.1 ≤ ((x :: xs).take p.2).count p.1).map Prod.fst =
      behindFirst (fun y => n y - [x].count y) xs := by
    rw [behindFirst, List.zipIdx_succ, List.filter_map, List.map_map]
    congr 1
    apply List.filter_congr
    intro p _
    have hcount : ((x :: xs).take (p.2 + 1)).count p.1 =
        [x].count p.1 + (xs.take p.2).count p.1 := by
      rw [List.take_succ_cons, ← List.singleton_append, List.count_append]
    simp only [Function.comp_apply, hcount]
    congr 1
    apply propext
    omega
  rw [← hrest, behindFirst, List.zipIdx_cons]
  by_cases hx : n x = 0
  · rw [if_pos hx, List.filter_cons_of_pos (by simp [hx])]
    rfl
  · rw [if_neg hx, List.filter_cons_of_neg (by simpa using hx)]
    rfl

variable [LawfulBEq α]

/-- The difference of two lists leaves out as many occurrences of a value as both have. -/
theorem diff_eq_behindFirst (xs ys : List α) :
    xs.diff ys = behindFirst (fun x => min (xs.count x) (ys.count x)) xs := by
  induction xs generalizing ys with
  | nil => rw [List.nil_diff]; rfl
  | cons x xs ih =>
    have hcount (y : α) : (x :: xs).count y = [x].count y + xs.count y := by
      rw [← List.singleton_append, List.count_append]
    rw [behindFirst_cons]
    by_cases hx : x ∈ ys
    · have hpos : 0 < ys.count x := List.count_pos_iff.2 hx
      rw [List.cons_diff_of_mem hx, ih, if_neg (by simp; omega), List.nil_append]
      congr 1
      funext y
      rw [hcount, List.count_erase]
      by_cases hy : x = y
      · subst hy
        simp
        omega
      · simp [hy]
    · have hzero : ys.count x = 0 := List.count_eq_zero.2 hx
      rw [List.cons_diff_of_not_mem hx, ih, if_pos (by simp [hzero]), List.singleton_append]
      congr 2
      funext y
      rw [hcount]
      by_cases hy : x = y
      · subst hy
        simp [hzero]
      · simp [hy]

end

structure Filled (c : ComponentMap) : Prop where
  distinct : c.Distinct
  nonempty : ∀ e ∈ c.toList, e.2 ≠ []

theorem Filled.get?_eq {c : ComponentMap} (h : Filled c) (type : String) :
    c.get? type = if c.membersOf type = [] then none else some (c.membersOf type) := by
  rw [ComponentMap.membersOf]
  cases hget : c.get? type with
  | none => rfl
  | some members =>
    have hfilled : members ≠ [] := h.nonempty _ (Table.mem_of_get? hget)
    rw [Option.getD_some, if_neg hfilled]

theorem added_filled (revert deploy : Manifest) : Filled (changes revert deploy).added where
  distinct := (changes_distinct revert deploy).1
  nonempty := by
    rintro ⟨type, members⟩ he
    have hcollects := added_collects revert deploy
    have hkey : type ∈ (changes revert deploy).added.keys := List.mem_map.2 ⟨_, he, rfl⟩
    rw [hcollects.keys, List.mem_eraseDups] at hkey
    obtain ⟨p, hp, rfl⟩ := List.mem_map.1 hkey
    have hmembers : (changes revert deploy).added.membersOf p.1 = members :=
      ComponentMap.membersOf_of_mem (changes_distinct revert deploy).1 he
    rw [← hmembers, hcollects.members, membersIn]
    exact List.ne_nil_of_mem (List.mem_map.2 ⟨p, List.mem_filter.2 ⟨hp, by simp⟩, rfl⟩)

theorem deleted_filled (revert deploy : Manifest) : Filled (changes revert deploy).deleted where
  distinct := (changes_distinct revert deploy).2
  nonempty e he := by simpa using (List.mem_filter.1 he).2

def SameEntries (m m' : Manifest) : Prop :=
  m = { m' with types := m.types } ∧ m.types.Perm m'.types

theorem destructive_of_perm (source : Manifest) {c c' : ComponentMap}
    (h : c.toList.Perm c'.toList) :
    Option.Rel SameEntries (destructive source c) (destructive source c') := by
  have hkept : (nonEmpty c).entries.Perm (nonEmpty c').entries := h.filter _
  unfold destructive
  cases hc : (nonEmpty c).entries with
  | nil =>
    rw [hc] at hkept
    rw [hkept.nil_eq.symm]
    exact .none
  | cons e es =>
    cases hc' : (nonEmpty c').entries with
    | nil =>
      rw [hc, hc'] at hkept
      exact absurd hkept.eq_nil (List.cons_ne_nil _ _)
    | cons e' es' =>
      rw [hc, hc'] at hkept
      refine .some ⟨rfl, ?_⟩
      dsimp only
      exact hkept.map _

/-- What a difference deletes is what the difference read backwards adds: the same
types, and under each the same members in the same order. So the manifest that takes
the one out of an organisation lists what the manifest for the other lists. -/
theorem diff_swap (a b : Manifest) :
    let deleted := (diff a b).changes.deleted
    let added := (diff b a).changes.added
    (∀ type, deleted.get? type = added.get? type) ∧
      deleted.Distinct ∧ added.Distinct ∧ deleted.toList.Perm added.toList ∧
      Option.Rel SameEntries (diff a b).deployDestructive (diff b a).revertDestructive := by
  intro deleted added
  have hdeleted : Filled deleted := deleted_filled a b
  have hadded : Filled added := added_filled b a
  have hmembers (type : String) : deleted.membersOf type = added.membersOf type :=
    (deleted_membersOf a b type).trans ((added_collects b a).members type).symm
  have hget (type : String) : deleted.get? type = added.get? type := by
    rw [hdeleted.get?_eq, hadded.get?_eq, hmembers]
  have hperm := Table.toList_perm hdeleted.distinct hadded.distinct hget
  exact ⟨hget, hdeleted.distinct, hadded.distinct, hperm, destructive_of_perm b hperm⟩

theorem count_listing (m : Manifest) (p : String × String) :
    (listing m.components).count p = m.occurrences p.1 p.2 := by
  have hinjective : Function.Injective fun member : String => (p.1, member) :=
    fun _ _ h => congrArg Prod.snd h
  calc
    (listing m.components).count p =
        ((listing m.components).filter fun q => q.1 = p.1).count p := by
      rw [List.count_filter]
      simp
    _ = ((membersIn p.1 (listing m.components)).map fun member => (p.1, member)).count p := by
      rw [map_membersIn]
    _ = (membersIn p.1 (listing m.components)).count p.2 :=
      List.count_map_of_injective _ _ hinjective p.2
    _ = m.occurrences p.1 p.2 := count_membersIn m p.1 p.2

/-- Of the members that both manifests list under a type, either change leaves out the
first occurrences. No type is left without members. The types of what is added follow
the first member added, and the types of what is deleted the entries of the revert
manifest. -/
theorem diff_order (revert deploy : Manifest) :
    let c := (diff revert deploy).changes
    let both type member :=
      min (deploy.occurrences type member) (revert.occurrences type member)
    (∀ type, c.added.membersOf type = behindFirst (both type) (deploy.membersOf type)) ∧
      (∀ type, c.deleted.membersOf type = behindFirst (both type) (revert.membersOf type)) ∧
      Filled c.added ∧ Filled c.deleted ∧
      c.added.keys =
        ((behindFirst (fun p => both p.1 p.2) (listing deploy.components)).map
          Prod.fst).eraseDups ∧
      c.deleted.keys = (revert.components.map Prod.fst).eraseDups.filter fun type =>
        behindFirst (both type) (revert.membersOf type) ≠ [] := by
  intro c both
  have hadded := added_collects revert deploy
  have hdeleted (type : String) :
      c.deleted.membersOf type = behindFirst (both type) (revert.membersOf type) := by
    refine (deleted_membersOf revert deploy type).trans ?_
    rw [membersIn_diff, membersIn_components, membersIn_components, diff_eq_behindFirst]
    congr 1
    funext member
    exact Nat.min_comm _ _
  refine ⟨?_, hdeleted, added_filled revert deploy, deleted_filled revert deploy, ?_, ?_⟩
  · intro type
    refine (hadded.members type).trans ?_
    rw [membersIn_diff, membersIn_components, membersIn_components, diff_eq_behindFirst]
    rfl
  · refine hadded.keys.trans ?_
    rw [diff_eq_behindFirst]
    simp only [count_listing]
    rfl
  · refine (deleted_keys revert deploy).trans ?_
    apply List.filter_congr
    intro type _
    rw [← hdeleted]
    rfl

end ChangeSet
end OrgPipeline
