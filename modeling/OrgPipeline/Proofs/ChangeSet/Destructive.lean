import OrgPipeline.Proofs.ChangeSet.Order

/-!
# What a destructive manifest lists

A destructive manifest lists the types of a map that have members, as the map has
them, and takes what it says about itself from another manifest. Of the two manifests of
a difference the one for the deployment lists what is deleted and speaks for the deploy
manifest, and the one for a revert lists what is added and speaks for the revert manifest.
-/

set_option autoImplicit false

namespace OrgPipeline
namespace ChangeSet

structure Stated (value : Option String) (default : String) (result : Option String) : Prop where
  kept : ∀ v, value = some v → v ≠ "" → result = some v
  filled : value = none ∨ value = some "" → result = some default

theorem stated_statedOr (value : Option String) (default : String) :
    Stated value default (some (statedOr value default)) where
  kept := by
    rintro v rfl hv
    simp [statedOr, hv]
  filled := by
    rintro (rfl | rfl)
    · rfl
    · simp [statedOr]

structure SpeaksFor (source m : Manifest) : Prop where
  xmlVersion : Stated source.xmlVersion Manifest.defaultXmlVersion m.xmlVersion
  encoding : Stated source.encoding Manifest.defaultEncoding m.encoding
  xmlns : Stated source.xmlns Manifest.defaultXmlns m.xmlns
  version : Stated source.version Manifest.defaultVersion m.version

/-- A manifest to destroy by, if there is one, lists the entries of a map that have members
and speaks for the source. -/
structure Lists (source : Manifest) (c : ComponentMap) (result : Option Manifest) : Prop where
  none_iff : result = none ↔ ∀ e ∈ c.toList, e.2 = []
  components : ∀ m, result = some m → m.components = c.toList.filter fun e => e.2 ≠ []
  speaks : ∀ m, result = some m → SpeaksFor source m

theorem nonEmpty_toList (c : ComponentMap) :
    (nonEmpty c).toList = c.toList.filter fun e => e.2 ≠ [] := by
  apply List.filter_congr
  intro e _
  cases e.2 <;> rfl

theorem nonEmpty_toList_eq_nil (c : ComponentMap) :
    (nonEmpty c).toList = [] ↔ ∀ e ∈ c.toList, e.2 = [] := by
  rw [nonEmpty_toList, List.filter_eq_nil_iff]
  simp

theorem filterMap_component? {entries : List (String × List String)}
    (h : ∀ e ∈ entries, e.2 ≠ []) :
    (entries.map fun (type, members) => (⟨some type, members⟩ : ManifestType)).filterMap
      ManifestType.component? = entries := by
  rw [List.filterMap_map]
  conv_rhs => rw [← List.filterMap_some (l := entries)]
  apply List.filterMap_congr
  rintro ⟨type, members⟩ he
  have hmembers : members ≠ [] := h _ he
  simp [ManifestType.component?, hmembers]

theorem destructive_eq_some {source m : Manifest} {c : ComponentMap}
    (h : destructive source c = some m) :
    m.components = (nonEmpty c).toList ∧ SpeaksFor source m := by
  have hfilled : ∀ e ∈ (nonEmpty c).toList, e.2 ≠ [] := by
    intro e he
    rw [nonEmpty_toList] at he
    simpa using (List.mem_filter.1 he).2
  unfold destructive at h
  split at h
  · cases h
  · next entries _ =>
    cases h
    exact ⟨filterMap_component? hfilled, stated_statedOr _ _, stated_statedOr _ _,
      stated_statedOr _ _, stated_statedOr _ _⟩

theorem destructive_eq_none_iff {source : Manifest} {c : ComponentMap} :
    destructive source c = none ↔ ∀ e ∈ c.toList, e.2 = [] := by
  have hsome := destructive_isSome_iff source c
  rw [← nonEmpty_toList_eq_nil, ← Option.not_isSome_iff_eq_none, hsome]
  exact not_not

theorem lists_destructive (source : Manifest) (c : ComponentMap) :
    Lists source c (destructive source c) where
  none_iff := destructive_eq_none_iff
  components m h := by rw [(destructive_eq_some h).1, nonEmpty_toList]
  speaks m h := (destructive_eq_some h).2

theorem Filled.listed {source : Manifest} {c : ComponentMap} (hc : Filled c) :
    ((destructive source c).isSome ↔ c.toList ≠ []) ∧
      ∀ m, destructive source c = some m → m.components = c.toList ∧ SpeaksFor source m := by
  have hsame : (nonEmpty c).toList = c.toList := by
    rw [nonEmpty_toList, List.filter_eq_self]
    intro e he
    simpa using hc.nonempty e he
  constructor
  · rw [destructive_isSome_iff, ← hsame]
    rfl
  · intro m hm
    rw [← hsame]
    exact destructive_eq_some hm

/-- A manifest to destroy by is made exactly if some type of the map has members. It
lists those types with their members in the order of the map, and says for itself what
its source says. In a difference the side of the deployment is there exactly if
something is deleted, lists exactly that and speaks for the deploy manifest; the side of
a revert is there exactly if something is added, lists exactly that and speaks for the
revert manifest. -/
theorem destructive_lists (source : Manifest) (c : ComponentMap) (revert deploy : Manifest) :
    let d := diff revert deploy
    Lists source c (destructive source c) ∧
      ((d.deployDestructive.isSome ↔ d.changes.deleted.toList ≠ []) ∧
        ∀ m, d.deployDestructive = some m →
          m.components = d.changes.deleted.toList ∧ SpeaksFor deploy m) ∧
      ((d.revertDestructive.isSome ↔ d.changes.added.toList ≠ []) ∧
        ∀ m, d.revertDestructive = some m →
          m.components = d.changes.added.toList ∧ SpeaksFor revert m) :=
  ⟨lists_destructive source c, (deleted_filled revert deploy).listed,
    (added_filled revert deploy).listed⟩

end ChangeSet
end OrgPipeline
