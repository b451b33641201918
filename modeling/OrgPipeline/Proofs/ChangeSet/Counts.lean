import OrgPipeline.Proofs.ChangeSet.Listing

/-!
# How often a component is added or deleted

A component is counted over all entries of a manifest that name its type. Each
occurrence in the one manifest makes up for one in the other, and this gives the
counts of the changes: the surplus of either manifest over the other.
-/

set_option autoImplicit false

namespace OrgPipeline

/-- How often a manifest lists a member of a type, over all entries that name
the type. -/
def Manifest.occurrences (m : Manifest) (type member : String) : Nat :=
  ((m.types.filter fun e => e.name = some type).flatMap fun e => e.members).count member

namespace ComponentMap

def countOf (c : ComponentMap) (type member : String) : Nat := (c.membersOf type).count member

end ComponentMap

namespace ChangeSet

theorem count_membersIn (m : Manifest) (type member : String) :
    (membersIn type (listing m.components)).count member = m.occurrences type member := by
  rw [membersIn_components]
  rfl

theorem changes_counts (revert deploy : Manifest) (type member : String) :
    (changes revert deploy).added.countOf type member =
        deploy.occurrences type member - revert.occurrences type member ∧
      (changes revert deploy).deleted.countOf type member =
        revert.occurrences type member - deploy.occurrences type member := by
  rw [ComponentMap.countOf, ComponentMap.countOf, (added_collects revert deploy).members,
    deleted_membersOf, membersIn_diff, membersIn_diff, List.count_diff, List.count_diff,
    count_membersIn, count_membersIn]
  exact ⟨rfl, rfl⟩

theorem countOf_of_mem (c : ComponentMap) (h : c.Distinct) (type : String)
    (members : List String) (hm : (type, members) ∈ c.entries) (member : String) :
    c.countOf type member = members.count member := by
  rw [ComponentMap.countOf, ComponentMap.membersOf_of_mem h hm]

theorem destructive_eq_none (source : Manifest) (c : ComponentMap) (h : c.Distinct)
    (hc : ∀ type member, c.countOf type member = 0) : destructive source c = none := by
  have hempty : (nonEmpty c).entries = [] := by
    apply List.filter_eq_nil_iff.2
    rintro ⟨type, members⟩ hm
    cases members with
    | nil => simp
    | cons member members =>
      have hzero := hc type member
      rw [countOf_of_mem c h type _ hm member] at hzero
      simp at hzero
  unfold destructive
  rw [hempty]

theorem destructive_isSome_iff (source : Manifest) (c : ComponentMap) :
    (destructive source c).isSome ↔ (nonEmpty c).entries ≠ [] := by
  unfold destructive
  split
  · next h => simp [h]
  · next h => simpa using h

theorem nonEmpty_nonEmpty (c : ComponentMap) : nonEmpty (nonEmpty c) = nonEmpty c := by
  unfold nonEmpty
  simp

theorem diff_self_revertDestructive (m : Manifest) : (diff m m).revertDestructive = none := by
  apply destructive_eq_none m _ (changes_distinct m m).1
  intro type member
  rw [(changes_counts m m type member).1]
  exact Nat.sub_self _

theorem deployDestructive_isSome_iff (revert deploy : Manifest) :
    (diff revert deploy).deployDestructive.isSome ↔
      (diff revert deploy).changes.deleted.isEmpty = false := by
  have hdeleted : (diff revert deploy).deployDestructive =
      destructive deploy (diff revert deploy).changes.deleted := rfl
  have hkept : nonEmpty (diff revert deploy).changes.deleted =
      (diff revert deploy).changes.deleted := nonEmpty_nonEmpty _
  rw [hdeleted, destructive_isSome_iff, hkept]
  simp [Table.isEmpty]

/-- The changes count every component exactly: what the deploy manifest has
beyond the revert manifest is added, what it lacks is deleted. Subtraction
stops at zero, so no component is on both sides. -/
theorem diff_counts (revert deploy : Manifest) (type member : String) :
    let c := (diff revert deploy).changes
    let d := deploy.occurrences type member
    let r := revert.occurrences type member
    (c.added.membersOf type).count member = d - r ∧
      (c.deleted.membersOf type).count member = r - d ∧
      (c.deleted.membersOf type).count member + d =
        (c.added.membersOf type).count member + r ∧
      ¬ (member ∈ c.added.membersOf type ∧ member ∈ c.deleted.membersOf type) ∧
      c.added.Distinct ∧ c.deleted.Distinct := by
  intro c d r
  obtain ⟨hadded, hdeleted⟩ := changes_counts revert deploy type member
  have ha : (c.added.membersOf type).count member = d - r := hadded
  have hd : (c.deleted.membersOf type).count member = r - d := hdeleted
  refine ⟨ha, hd, by omega, ?_, changes_distinct revert deploy⟩
  rintro ⟨hma, hmd⟩
  have h₁ := List.count_pos_iff.2 hma
  have h₂ := List.count_pos_iff.2 hmd
  omega

end ChangeSet
end OrgPipeline
