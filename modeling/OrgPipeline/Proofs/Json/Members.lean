import OrgPipeline.Json.Path
import Mathlib.Data.List.Perm.Basic

/-!
# The members of an object

Members whose names differ are only put in order when an object is made of them:
none is lost, none comes twice, and each is found under its name.
-/

set_option autoImplicit false

namespace OrgPipeline.Json

theorem putMember_perm (name : String) (value : Json) (members : Members)
    (h : name ∉ members.map Prod.fst) :
    (putMember name value members).Perm ((name, value) :: members) := by
  induction members with
  | nil => exact List.Perm.refl _
  | cons m members ih =>
    obtain ⟨other, v⟩ := m
    simp only [List.map_cons, List.mem_cons, not_or] at h
    rw [putMember]
    by_cases hlt : name < other
    · rw [if_pos hlt]
    · rw [if_neg hlt, if_neg h.1]
      exact ((ih h.2).cons _).trans (List.Perm.swap _ _ _)

theorem foldl_putMember_perm (members acc : Members)
    (h : ((acc ++ members).map Prod.fst).Nodup) :
    (members.foldl (fun acc m => putMember m.1 m.2 acc) acc).Perm (acc ++ members) := by
  induction members generalizing acc with
  | nil => simp
  | cons m members ih =>
    have hmoved : (acc ++ m :: members).Perm ((m :: acc) ++ members) := List.perm_middle
    have hnodup : (((m :: acc) ++ members).map Prod.fst).Nodup :=
      (hmoved.map Prod.fst).nodup_iff.1 h
    have hnew : m.1 ∉ acc.map Prod.fst := by
      intro hm
      rw [List.cons_append, List.map_cons, List.nodup_cons, List.map_append] at hnodup
      exact hnodup.1 (List.mem_append_left _ hm)
    have hput : (putMember m.1 m.2 acc ++ members).Perm ((m :: acc) ++ members) :=
      (putMember_perm m.1 m.2 acc hnew).append_right members
    rw [List.foldl_cons]
    refine (ih _ ?_).trans (hput.trans hmoved.symm)
    exact (hput.map Prod.fst).nodup_iff.2 hnodup

theorem sortMembers_perm (members : Members) (h : (members.map Prod.fst).Nodup) :
    (sortMembers members).Perm members :=
  foldl_putMember_perm members [] h

def HasKeys (v : Json) (names : List String) : Prop :=
  ∃ members, v = .obj members ∧ (members.map Prod.fst).Perm names

theorem hasKeys_object {members : Members} {names : List String}
    (hnames : members.map Prod.fst = names) (h : names.Nodup) :
    (object members).HasKeys names := by
  subst hnames
  exact ⟨_, rfl, (sortMembers_perm members h).map Prod.fst⟩

theorem lookup_eq_none {name : String} {members : Members} (h : name ∉ members.map Prod.fst) :
    lookup name members = none := by
  induction members with
  | nil => rfl
  | cons m members ih =>
    obtain ⟨other, v⟩ := m
    simp only [List.map_cons, List.mem_cons, not_or] at h
    rw [lookup, if_neg (Ne.symm h.1), ih h.2]

theorem lookup_eq_some_iff {members : Members} (h : (members.map Prod.fst).Nodup) {name : String}
    {v : Json} : lookup name members = some v ↔ (name, v) ∈ members := by
  induction members with
  | nil => simp [lookup]
  | cons m members ih =>
    obtain ⟨other, u⟩ := m
    rw [List.map_cons, List.nodup_cons] at h
    rw [lookup, List.mem_cons, Prod.mk.injEq]
    by_cases hname : other = name
    · subst hname
      have hnew : (other, v) ∉ members := fun hm => h.1 (List.mem_map.2 ⟨_, hm, rfl⟩)
      simp [hnew, eq_comm]
    · rw [if_neg hname, ih h.2]
      simp [Ne.symm hname]

theorem lookup_append (name : String) (first rest : Members) :
    lookup name (first ++ rest) = (lookup name first).or (lookup name rest) := by
  induction first with
  | nil => rfl
  | cons m first ih =>
    obtain ⟨other, v⟩ := m
    by_cases hname : other = name <;> simp [lookup, hname, ih]

theorem lookup_member? (name other : String) (v : Option Json) :
    lookup name (member? other v) = if other = name then v else none := by
  cases v with
  | none => simp [member?, lookup]
  | some v => rfl

theorem lookup_foldl_putMember (name : String) (members acc : Members)
    (h : (members.map Prod.fst).Nodup) :
    lookup name (members.foldl (fun acc m => putMember m.1 m.2 acc) acc) =
      (lookup name members).or (lookup name acc) := by
  induction members generalizing acc with
  | nil => rfl
  | cons m members ih =>
    obtain ⟨other, v⟩ := m
    rw [List.map_cons, List.nodup_cons] at h
    rw [List.foldl_cons, ih _ h.2, lookup_putMember, lookup]
    by_cases hname : other = name
    · subst hname
      simp [lookup_eq_none h.1]
    · simp [hname]

theorem get?_object {members : Members} (h : (members.map Prod.fst).Nodup) (name : String) :
    (object members).get? name = lookup name members := by
  have hlookup := lookup_foldl_putMember name members [] h
  rw [lookup, Option.or_none] at hlookup
  exact hlookup

theorem descend_object {members : Members} (h : (members.map Prod.fst).Nodup) (name : String)
    (path : List String) :
    (object members).descend (name :: path) = (lookup name members).bind (·.descend path) := by
  rw [← get?_object h name]
  rfl

def Ordered (members : Members) : Prop := members.Pairwise fun m m' => m.1 < m'.1

theorem mem_putMember {name : String} {value : Json} {members : Members} {m : String × Json}
    (h : m ∈ putMember name value members) : m = (name, value) ∨ m ∈ members := by
  induction members with
  | nil => exact Or.inl (List.mem_singleton.1 h)
  | cons head rest ih =>
    obtain ⟨n, v⟩ := head
    rw [putMember] at h
    split at h
    · exact List.mem_cons.1 h
    · split at h
      · rcases List.mem_cons.1 h with rfl | h
        · exact Or.inl rfl
        · exact Or.inr (List.mem_cons_of_mem _ h)
      · rcases List.mem_cons.1 h with rfl | h
        · exact Or.inr List.mem_cons_self
        · exact (ih h).imp_right (List.mem_cons_of_mem _)

theorem ordered_putMember {members : Members} (h : Ordered members) (name : String)
    (value : Json) : Ordered (putMember name value members) := by
  induction members with
  | nil => exact List.pairwise_singleton _ _
  | cons head rest ih =>
    obtain ⟨n, v⟩ := head
    obtain ⟨hhead, hrest⟩ := List.pairwise_cons.1 h
    rw [putMember]
    split
    · next hlt =>
      refine List.pairwise_cons.2 ⟨?_, h⟩
      intro m hm
      rcases List.mem_cons.1 hm with rfl | hm
      · exact hlt
      · exact String.lt_trans hlt (hhead m hm)
    · split
      · next heq => exact List.pairwise_cons.2 ⟨heq ▸ hhead, hrest⟩
      · next hlt hne =>
        have hbehind : n < name := by
          by_contra hge
          exact hne (String.le_antisymm (String.not_lt.1 hge) (String.not_lt.1 hlt))
        refine List.pairwise_cons.2 ⟨?_, ih hrest⟩
        intro m hm
        rcases mem_putMember hm with rfl | hm
        · exact hbehind
        · exact hhead m hm

theorem ordered_foldl_putMember (members : Members) {acc : Members} (h : Ordered acc) :
    Ordered (members.foldl (fun acc m => putMember m.1 m.2 acc) acc) := by
  induction members generalizing acc with
  | nil => exact h
  | cons m members ih => exact ih (ordered_putMember h m.1 m.2)

theorem mem_foldl_putMember {members acc : Members} {m : String × Json}
    (h : m ∈ members.foldl (fun acc m => putMember m.1 m.2 acc) acc) : m ∈ acc ∨ m ∈ members := by
  induction members generalizing acc with
  | nil => exact Or.inl h
  | cons head members ih =>
    rcases ih h with hm | hm
    · rcases mem_putMember hm with rfl | hm
      · exact Or.inr List.mem_cons_self
      · exact Or.inl hm
    · exact Or.inr (List.mem_cons_of_mem _ hm)

theorem Ordered.nodup {members : Members} (h : Ordered members) :
    (members.map Prod.fst).Nodup := by
  refine List.Pairwise.map Prod.fst ?_ h
  intro m m' hlt heq
  rw [heq] at hlt
  exact String.lt_irrefl _ hlt

end OrgPipeline.Json
