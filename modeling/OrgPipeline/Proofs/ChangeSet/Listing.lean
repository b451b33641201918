import Mathlib.Data.List.Count
import OrgPipeline.ChangeSet.Diff
import OrgPipeline.Proofs.Table

/-!
# What is left and what is added

A manifest lists its components one after another, each a type with one member.
What is left of the revert manifest is the difference of its list and that of the
deploy manifest, and what is added is their difference the other way round.
-/

set_option autoImplicit false

namespace OrgPipeline

def Manifest.membersOf (m : Manifest) (type : String) : List String :=
  (m.types.filter fun e => e.name = some type).flatMap fun e => e.members

namespace ComponentMap

theorem membersOf_insert (c : ComponentMap) (key : String) (v : List String) (type : String) :
    membersOf (c.insert key v) type = if key = type then v else c.membersOf type := by
  unfold membersOf
  rw [Table.get?_insert]
  split <;> rfl

theorem distinct_append (c : ComponentMap) (key : String) (members : List String)
    (h : c.Distinct) : (c.append key members).Distinct :=
  Table.distinct_insert c key _ h

theorem membersOf_of_mem {c : ComponentMap} (h : c.Distinct) {type : String}
    {members : List String} (hm : (type, members) ∈ c.entries) : c.membersOf type = members := by
  rw [membersOf, Table.get?, Table.lookup_of_mem c.entries h type members hm]
  rfl

end ComponentMap

namespace ChangeSet

def listing (components : List (String × List String)) : List (String × String) :=
  components.flatMap fun e => e.2.map fun member => (e.1, member)

def membersIn (type : String) (l : List (String × String)) : List String :=
  (l.filter fun p => p.1 = type).map Prod.snd

theorem membersIn_append (type : String) (l more : List (String × String)) :
    membersIn type (l ++ more) = membersIn type l ++ membersIn type more := by
  rw [membersIn, List.filter_append, List.map_append]
  rfl

theorem map_membersIn (type : String) (l : List (String × String)) :
    (membersIn type l).map (fun member => (type, member)) = l.filter fun p => p.1 = type := by
  rw [membersIn, List.map_map]
  conv_rhs => rw [← List.map_id (l.filter fun p => p.1 = type)]
  apply List.map_congr_left
  intro p hp
  have htype : p.1 = type := by simpa using (List.mem_filter.1 hp).2
  exact Prod.ext htype.symm rfl

theorem filter_diff {α : Type} [BEq α] [LawfulBEq α] (p : α → Bool) (xs ys : List α) :
    (xs.diff ys).filter p = (xs.filter p).diff (ys.filter p) := by
  induction ys generalizing xs with
  | nil => rfl
  | cons y ys ih =>
    rw [List.diff_cons, ih, ← List.erase_filter]
    by_cases hy : p y = true
    · rw [List.filter_cons_of_pos hy, List.diff_cons]
    · have hnot : y ∉ xs.filter p := fun hmem => hy (List.mem_filter.1 hmem).2
      rw [List.filter_cons_of_neg hy, List.erase_of_not_mem hnot]

theorem membersIn_diff (type : String) (l other : List (String × String)) :
    membersIn type (l.diff other) = (membersIn type l).diff (membersIn type other) := by
  have hinjective : Function.Injective fun member : String => (type, member) :=
    fun _ _ h => congrArg Prod.snd h
  rw [membersIn, filter_diff, ← map_membersIn, ← map_membersIn, ← List.map_diff hinjective,
    List.map_map]
  exact List.map_id _

theorem membersIn_listing (type : String) (cs : List (String × List String)) :
    membersIn type (listing cs) = (cs.filter fun e => e.1 = type).flatMap Prod.snd := by
  induction cs with
  | nil => rfl
  | cons e cs ih =>
    have hcons : listing (e :: cs) = e.2.map (fun member => (e.1, member)) ++ listing cs := rfl
    rw [hcons, membersIn_append, ih]
    by_cases he : e.1 = type
    · simp [membersIn, List.filter_map, Function.comp_def, he]
    · simp [membersIn, List.filter_map, Function.comp_def, he]

theorem membersIn_components (type : String) (m : Manifest) :
    membersIn type (listing m.components) = m.membersOf type := by
  rw [membersIn_listing]
  unfold Manifest.components Manifest.membersOf
  induction m.types with
  | nil => rfl
  | cons e es ih =>
    obtain ⟨name, members⟩ := e
    cases name with
    | none => simp [List.filterMap_cons, ManifestType.component?, ih]
    | some name =>
      cases members with
      | nil => by_cases hn : name = type <;> simp [ManifestType.component?, hn, ih]
      | cons member members =>
        by_cases hn : name = type <;> simp [ManifestType.component?, hn, ih]

/-- The map has the members of a listing, each under its type, and the types in
the order in which they first come. -/
structure Collects (c : ComponentMap) (l : List (String × String)) : Prop where
  members : ∀ type, c.membersOf type = membersIn type l
  keys : c.keys = (l.map Prod.fst).eraseDups

theorem membersOf_append (c : ComponentMap) (key : String) (members : List String)
    (type : String) :
    (c.append key members).membersOf type =
      c.membersOf type ++ if key = type then members else [] := by
  rw [ComponentMap.append, ComponentMap.membersOf_insert]
  by_cases hk : key = type
  · simp [hk]
  · simp [hk]

theorem keys_append {c : ComponentMap} {types : List String} (h : c.keys = types.eraseDups)
    (type : String) (members : List String) :
    (c.append type members).keys = (types ++ [type]).eraseDups :=
  Table.keys_insert_of_eraseDups h type _

theorem collects_empty : Collects .empty [] := ⟨fun _ => rfl, rfl⟩

theorem Collects.append_one {c : ComponentMap} {l : List (String × String)} (h : Collects c l)
    (p : String × String) : Collects (c.append p.1 [p.2]) (l ++ [p]) where
  members type := by
    rw [membersIn_append, ← h.members, membersOf_append]
    by_cases hp : p.1 = type <;> simp [membersIn, hp]
  keys := by
    rw [List.map_append]
    exact keys_append h.keys p.1 [p.2]

theorem membersOf_foldl_append (cs : List (String × List String)) (c : ComponentMap)
    (type : String) :
    (cs.foldl (fun c (t, ms) => c.append t ms) c).membersOf type =
      c.membersOf type ++ membersIn type (listing cs) := by
  rw [membersIn_listing]
  induction cs generalizing c with
  | nil => simp
  | cons e cs ih =>
    rw [List.foldl_cons, ih, membersOf_append]
    by_cases he : e.1 = type <;> simp [he]

theorem keys_foldl_append (cs : List (String × List String)) {c : ComponentMap}
    {types : List String} (h : c.keys = types.eraseDups) :
    (cs.foldl (fun c (t, ms) => c.append t ms) c).keys = (types ++ cs.map Prod.fst).eraseDups := by
  induction cs generalizing c types with
  | nil => simpa using h
  | cons e cs ih =>
    rw [List.foldl_cons, ih (keys_append h e.1 e.2), List.map_cons, List.append_assoc,
      List.singleton_append]

theorem distinct_foldl_append (cs : List (String × List String)) (c : ComponentMap)
    (h : c.Distinct) : (cs.foldl (fun c (t, ms) => c.append t ms) c).Distinct := by
  induction cs generalizing c with
  | nil => exact h
  | cons e cs ih => exact ih _ (ComponentMap.distinct_append c _ _ h)

theorem ofManifest_membersOf (m : Manifest) (type : String) :
    (ComponentMap.ofManifest m).membersOf type = membersIn type (listing m.components) :=
  membersOf_foldl_append m.components .empty type

theorem ofManifest_keys (m : Manifest) :
    (ComponentMap.ofManifest m).keys = (m.components.map Prod.fst).eraseDups := by
  have hempty : (Table.empty : ComponentMap).keys = ([] : List String).eraseDups := rfl
  exact keys_foldl_append m.components hempty

theorem ofManifest_distinct (m : Manifest) : (ComponentMap.ofManifest m).Distinct :=
  distinct_foldl_append m.components _ Table.distinct_empty

namespace Matching

theorem place_of_mem (m : Matching) (key x : String) (h : x ∈ m.left.membersOf key) :
    m.place key x =
      { m with left := m.left.insert key ((m.left.membersOf key).erase x) } := by
  unfold place
  exact if_pos (List.contains_iff_mem.2 h)

theorem place_of_not_mem (m : Matching) (key x : String) (h : x ∉ m.left.membersOf key) :
    m.place key x = { m with added := m.added.append key [x] } := by
  unfold place
  exact if_neg fun hc => h (List.contains_iff_mem.1 hc)

theorem run_eq_foldl (m : Matching) (cs : List (String × List String)) :
    m.run cs = (listing cs).foldl (fun m p => m.place p.1 p.2) m := by
  induction cs generalizing m with
  | nil => rfl
  | cons e cs ih =>
    have hcons : listing (e :: cs) = e.2.map (fun member => (e.1, member)) ++ listing cs := rfl
    rw [hcons, List.foldl_append, List.foldl_map, ← ih]
    rfl

variable {m : Matching} {left added : List (String × String)} {p : String × String}

theorem mem_membersOf_iff (hleft : ∀ type, m.left.membersOf type = membersIn type left) :
    p.2 ∈ m.left.membersOf p.1 ↔ p ∈ left := by
  rw [hleft, membersIn, List.mem_map]
  constructor
  · rintro ⟨q, hq, hmember⟩
    obtain ⟨hlisted, htype⟩ := List.mem_filter.1 hq
    obtain rfl : q = p := Prod.ext (by simpa using htype) hmember
    exact hlisted
  · intro hp
    exact ⟨p, List.mem_filter.2 ⟨hp, by simp⟩, rfl⟩

/-- A component that is listed among those left is taken away there, at its first
occurrence. -/
theorem place_listed (hleft : ∀ type, m.left.membersOf type = membersIn type left) (hp : p ∈ left) :
    (∀ type, (m.place p.1 p.2).left.membersOf type = membersIn type (left.erase p)) ∧
      (m.place p.1 p.2).left.keys = m.left.keys ∧ (m.place p.1 p.2).added = m.added := by
  have hmem := (mem_membersOf_iff hleft).2 hp
  rw [place_of_mem m p.1 p.2 hmem]
  refine ⟨?_, ?_, rfl⟩
  · intro type
    have herase : left.erase p = left.diff [p] := by rw [List.diff_cons, List.diff_nil]
    rw [ComponentMap.membersOf_insert, herase, membersIn_diff, ← hleft]
    by_cases htype : p.1 = type
    · simp [membersIn, htype]
    · simp [membersIn, htype]
  · have hkey : p.1 ∈ m.left.keys := by
      by_contra hnot
      rw [ComponentMap.membersOf, (Table.get?_eq_none_iff _ _).2 hnot] at hmem
      cases hmem
    rw [Table.keys_insert, if_pos hkey]

theorem place_unlisted (hleft : ∀ type, m.left.membersOf type = membersIn type left)
    (hp : p ∉ left) : m.place p.1 p.2 = { m with added := m.added.append p.1 [p.2] } :=
  place_of_not_mem m p.1 p.2 fun hmem => hp ((mem_membersOf_iff hleft).1 hmem)

/-- Whatever is read, the difference of the two listings is left, and the difference
the other way round is added. -/
theorem foldl_place (reading : List (String × String))
    (hleft : ∀ type, m.left.membersOf type = membersIn type left)
    (hadded : Collects m.added added) :
    let final := reading.foldl (fun m p => m.place p.1 p.2) m
    (∀ type, final.left.membersOf type = membersIn type (left.diff reading)) ∧
      final.left.keys = m.left.keys ∧ Collects final.added (added ++ reading.diff left) := by
  induction reading generalizing m left added with
  | nil => simpa using ⟨hleft, hadded⟩
  | cons p reading ih =>
    by_cases hp : p ∈ left
    · obtain ⟨hplaced, hkeys, hsame⟩ := place_listed hleft hp
      rw [List.cons_diff_of_mem hp, List.diff_cons, List.foldl_cons, ← hkeys]
      exact ih hplaced (hsame ▸ hadded)
    · have hplaced := place_unlisted hleft hp
      have hrest : Collects (m.place p.1 p.2).added (added ++ [p]) := by
        rw [hplaced]
        exact hadded.append_one p
      have hfinal := ih (by rw [hplaced]; exact hleft) hrest
      rw [List.cons_diff_of_not_mem hp, List.diff_cons, List.erase_of_not_mem hp, List.foldl_cons,
        ← List.singleton_append, ← List.append_assoc]
      rwa [hplaced] at hfinal ⊢

theorem place_distinct (m : Matching) (key x : String)
    (hl : m.left.Distinct) (ha : m.added.Distinct) :
    (m.place key x).left.Distinct ∧ (m.place key x).added.Distinct := by
  by_cases hx : x ∈ m.left.membersOf key
  · rw [place_of_mem m key x hx]
    exact ⟨Table.distinct_insert _ _ _ hl, ha⟩
  · rw [place_of_not_mem m key x hx]
    exact ⟨hl, ComponentMap.distinct_append _ _ _ ha⟩

theorem foldl_place_distinct (reading : List (String × String)) (m : Matching)
    (hl : m.left.Distinct) (ha : m.added.Distinct) :
    let final := reading.foldl (fun m p => m.place p.1 p.2) m
    final.left.Distinct ∧ final.added.Distinct := by
  induction reading generalizing m with
  | nil => exact ⟨hl, ha⟩
  | cons p reading ih =>
    obtain ⟨hl', ha'⟩ := m.place_distinct p.1 p.2 hl ha
    exact ih (m.place p.1 p.2) hl' ha'

theorem run_distinct (cs : List (String × List String)) (m : Matching)
    (hl : m.left.Distinct) (ha : m.added.Distinct) :
    (m.run cs).left.Distinct ∧ (m.run cs).added.Distinct := by
  rw [run_eq_foldl]
  exact foldl_place_distinct (listing cs) m hl ha

end Matching

theorem nonEmpty_distinct (c : ComponentMap) (h : c.Distinct) : (nonEmpty c).Distinct :=
  h.sublist (List.filter_sublist.map Prod.fst)

theorem nonEmpty_membersOf {c : ComponentMap} (h : c.Distinct) (type : String) :
    (nonEmpty c).membersOf type = c.membersOf type := by
  unfold ComponentMap.membersOf nonEmpty Table.get?
  rw [Table.lookup_filter _ _ _ h]
  cases hl : Table.lookup type c.entries with
  | none => rfl
  | some members => cases members <;> simp [Option.filter]

theorem nonEmpty_keys {c : ComponentMap} (h : c.Distinct) :
    (nonEmpty c).keys = c.keys.filter fun type => c.membersOf type ≠ [] := by
  unfold Table.keys nonEmpty
  rw [List.filter_map]
  congr 1
  apply List.filter_congr
  rintro ⟨type, members⟩ he
  have hmembers : c.membersOf type = members := ComponentMap.membersOf_of_mem h he
  cases members <;> simp [hmembers]

section
variable (revert deploy : Manifest)

theorem run_changes_distinct :
    let m := Matching.run ⟨.ofManifest revert, .empty⟩ deploy.components
    m.left.Distinct ∧ m.added.Distinct :=
  Matching.run_distinct _ _ (ofManifest_distinct revert) Table.distinct_empty

theorem changes_distinct :
    (changes revert deploy).added.Distinct ∧ (changes revert deploy).deleted.Distinct := by
  obtain ⟨hl, ha⟩ := run_changes_distinct revert deploy
  exact ⟨ha, nonEmpty_distinct _ hl⟩

theorem run_changes :
    let m := Matching.run ⟨.ofManifest revert, .empty⟩ deploy.components
    let r := listing revert.components
    let d := listing deploy.components
    (∀ type, m.left.membersOf type = membersIn type (r.diff d)) ∧
      m.left.keys = (revert.components.map Prod.fst).eraseDups ∧ Collects m.added (d.diff r) := by
  intro m r d
  obtain ⟨hleft, hkeys, hadded⟩ := Matching.foldl_place (m := ⟨.ofManifest revert, .empty⟩) d
    (ofManifest_membersOf revert) collects_empty
  have hrun : m = d.foldl (fun m p => m.place p.1 p.2) ⟨.ofManifest revert, .empty⟩ :=
    Matching.run_eq_foldl _ _
  rw [hrun]
  exact ⟨hleft, hkeys.trans (ofManifest_keys revert), hadded⟩

theorem added_collects :
    Collects (changes revert deploy).added
      ((listing deploy.components).diff (listing revert.components)) :=
  (run_changes revert deploy).2.2

theorem deleted_membersOf (type : String) :
    (changes revert deploy).deleted.membersOf type =
      membersIn type ((listing revert.components).diff (listing deploy.components)) := by
  obtain ⟨hleft, -, -⟩ := run_changes revert deploy
  obtain ⟨hdistinct, -⟩ := run_changes_distinct revert deploy
  exact (nonEmpty_membersOf hdistinct type).trans (hleft type)

theorem deleted_keys :
    (changes revert deploy).deleted.keys =
      (revert.components.map Prod.fst).eraseDups.filter fun type =>
        (changes revert deploy).deleted.membersOf type ≠ [] := by
  obtain ⟨hleft, hkeys, -⟩ := run_changes revert deploy
  obtain ⟨hdistinct, -⟩ := run_changes_distinct revert deploy
  refine (nonEmpty_keys hdistinct).trans ?_
  rw [hkeys]
  apply List.filter_congr
  intro type _
  rw [hleft, deleted_membersOf]

end

end ChangeSet
end OrgPipeline
