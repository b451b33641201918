import Mathlib.Data.List.Induction
import Mathlib.Data.List.Nodup
import OrgPipeline.Table

/-!
# Distinct keys

Insertion keeps the keys of a table distinct, so that every table built from
the empty one by insertions holds each key once. A look up in a filtered table
relies on it: the first entry of a key is then the only one.
-/

set_option autoImplicit false

namespace OrgPipeline.Table
variable {α β : Type}

def Distinct (t : Table α) : Prop := t.keys.Nodup

theorem distinct_empty : (empty : Table α).Distinct := List.nodup_nil

theorem distinct_insert (t : Table α) (key : String) (v : α) (h : t.Distinct) :
    (t.insert key v).Distinct := by
  unfold Distinct keys insert at *
  by_cases hk : key ∈ t.entries.map Prod.fst
  · simpa [keys_put_of_mem key v t.entries hk] using h
  · rw [put_of_not_mem key v t.entries hk, List.map_append, List.map_singleton,
      ← List.concat_eq_append]
    exact List.Nodup.concat hk h

/-- With distinct keys a filter leaves the value of a key or takes it away. -/
theorem lookup_filter (p : String × α → Bool) (key : String) (es : List (String × α))
    (h : (es.map Prod.fst).Nodup) :
    lookup key (es.filter p) = (lookup key es).filter fun v => p (key, v) := by
  induction es with
  | nil => rfl
  | cons e es ih =>
    obtain ⟨k, v⟩ := e
    rw [List.map_cons, List.nodup_cons] at h
    have hes := ih h.2
    by_cases hk : k = key
    · subst hk
      have hnone : lookup k es = none := (lookup_eq_none_iff k es).2 h.1
      rw [hnone] at hes
      by_cases hp : p (k, v) = true
      · rw [List.filter_cons_of_pos hp]
        simp [lookup, Option.filter, hp]
      · rw [List.filter_cons_of_neg hp, hes]
        simp [lookup, Option.filter, hp]
    · by_cases hp : p (k, v) = true
      · rw [List.filter_cons_of_pos hp]
        simp [lookup, hk, hes]
      · rw [List.filter_cons_of_neg hp]
        simp [lookup, hk, hes]

theorem lookup_of_mem (es : List (String × α)) (h : (es.map Prod.fst).Nodup) (key : String)
    (v : α) (hm : (key, v) ∈ es) : lookup key es = some v := by
  induction es with
  | nil => cases hm
  | cons e es ih =>
    obtain ⟨k, u⟩ := e
    rw [List.map_cons, List.nodup_cons] at h
    rcases List.mem_cons.1 hm with heq | hrest
    · cases heq
      simp [lookup]
    · have hne : k ≠ key := by
        rintro rfl
        exact h.1 (List.mem_map.2 ⟨(k, v), hrest, rfl⟩)
      rw [lookup, if_neg hne, ih h.2 hrest]

theorem mem_of_lookup {key : String} {v : α} {es : List (String × α)}
    (h : lookup key es = some v) : (key, v) ∈ es := by
  induction es with
  | nil => cases h
  | cons e es ih =>
    obtain ⟨k, u⟩ := e
    rw [lookup] at h
    split at h
    · next hk =>
      cases hk
      cases h
      exact List.mem_cons_self
    · exact List.mem_cons_of_mem _ (ih h)

theorem mem_of_get? {t : Table α} {key : String} {v : α} (h : t.get? key = some v) :
    (key, v) ∈ t.toList :=
  mem_of_lookup h

theorem toList_perm {t u : Table α} (ht : t.Distinct) (hu : u.Distinct)
    (h : ∀ key, t.get? key = u.get? key) : t.toList.Perm u.toList := by
  apply (List.perm_ext_iff_of_nodup (ht.of_map _) (hu.of_map _)).2
  rintro ⟨key, v⟩
  constructor
  · intro hmem
    exact mem_of_get? ((h key).symm.trans (lookup_of_mem _ ht key v hmem))
  · intro hmem
    exact mem_of_get? ((h key).trans (lookup_of_mem _ hu key v hmem))

theorem eq_of_lookup {es fs : List (String × α)} (hkeys : es.map Prod.fst = fs.map Prod.fst)
    (h : (es.map Prod.fst).Nodup) (hvalues : ∀ key, lookup key es = lookup key fs) : es = fs := by
  induction es generalizing fs with
  | nil => exact (List.map_eq_nil_iff.1 hkeys.symm).symm
  | cons e es ih =>
    cases fs with
    | nil => cases hkeys
    | cons f fs =>
      obtain ⟨k, v⟩ := e
      obtain ⟨k', u⟩ := f
      rw [List.map_cons, List.map_cons, List.cons.injEq] at hkeys
      obtain ⟨rfl, hrest⟩ := hkeys
      rw [List.map_cons, List.nodup_cons] at h
      have hhead : v = u := by simpa [lookup] using hvalues k
      rw [hhead, ih hrest h.2]
      intro key
      by_cases hk : k = key
      · subst hk
        rw [(lookup_eq_none_iff k es).2 h.1, (lookup_eq_none_iff k fs).2 (hrest ▸ h.1)]
      · simpa [lookup, hk] using hvalues key

theorem eq_of_keys {t u : Table α} (hkeys : t.keys = u.keys) (h : t.Distinct)
    (hvalues : ∀ key, t.get? key = u.get? key) : t = u :=
  congrArg mk (eq_of_lookup hkeys h hvalues)

theorem get?_eq_none_iff (t : Table α) (key : String) : t.get? key = none ↔ key ∉ t.keys :=
  lookup_eq_none_iff key t.entries

theorem toList_insert_of_not_mem (t : Table α) (key : String) (v : α) (h : key ∉ t.keys) :
    (t.insert key v).toList = t.toList ++ [(key, v)] :=
  put_of_not_mem key v t.entries h

theorem keys_insert (t : Table α) (key : String) (v : α) :
    (t.insert key v).keys = if key ∈ t.keys then t.keys else t.keys ++ [key] := by
  by_cases hk : key ∈ t.keys
  · rw [if_pos hk]
    exact keys_put_of_mem key v t.entries hk
  · rw [if_neg hk, keys, ← toList, toList_insert_of_not_mem t key v hk, List.map_append]
    rfl

theorem lookup_append (key : String) (es fs : List (String × α)) :
    lookup key (es ++ fs) = (lookup key es).or (lookup key fs) := by
  induction es with
  | nil => rfl
  | cons e es ih =>
    obtain ⟨k, v⟩ := e
    by_cases hk : k = key <;> simp [lookup, hk, ih]

theorem lookup_reverse (key : String) {es : List (String × α)} (h : (es.map Prod.fst).Nodup) :
    lookup key es.reverse = lookup key es := by
  cases hv : lookup key es with
  | none =>
    rw [lookup_eq_none_iff] at hv ⊢
    rwa [List.map_reverse, List.mem_reverse]
  | some v =>
    apply lookup_of_mem
    · rwa [List.map_reverse, List.nodup_reverse]
    · exact List.mem_reverse.2 (mem_of_lookup hv)

theorem get?_foldl_insert (pairs : List (String × α)) (t : Table α) (key : String) :
    (pairs.foldl (fun t p => t.insert p.1 p.2) t).get? key =
      (lookup key pairs.reverse).or (t.get? key) := by
  induction pairs generalizing t with
  | nil => rfl
  | cons p pairs ih =>
    obtain ⟨k, v⟩ := p
    rw [List.foldl_cons, ih, get?_insert, List.reverse_cons, lookup_append]
    by_cases hk : k = key <;> simp [lookup, hk]

theorem distinct_foldl_insert (pairs : List (String × α)) {t : Table α} (h : t.Distinct) :
    (pairs.foldl (fun t p => t.insert p.1 p.2) t).Distinct := by
  induction pairs generalizing t with
  | nil => exact h
  | cons p pairs ih => exact ih (distinct_insert t p.1 p.2 h)

theorem get?_ofList (pairs : List (String × α)) (key : String) :
    (ofList pairs).get? key = lookup key pairs.reverse := by
  rw [ofList, get?_foldl_insert]
  exact Option.or_none

theorem distinct_ofList (pairs : List (String × α)) : (ofList pairs).Distinct :=
  distinct_foldl_insert pairs distinct_empty

theorem eraseDups_concat (l : List String) (a : String) :
    (l ++ [a]).eraseDups = if a ∈ l then l.eraseDups else l.eraseDups ++ [a] := by
  rw [List.eraseDups_append]
  by_cases ha : a ∈ l
  · simp [List.removeAll, ha]
  · simp [List.removeAll, List.eraseDups_cons, ha]

theorem eraseDups_append_eraseDups (names more : List String) :
    (names ++ more.eraseDups).eraseDups = (names ++ more).eraseDups := by
  induction more using List.reverseRecOn with
  | nil => rfl
  | append_singleton more name ih =>
    rw [eraseDups_concat, ← List.append_assoc, eraseDups_concat]
    by_cases hmore : name ∈ more
    · rw [if_pos hmore, if_pos (List.mem_append_right names hmore), ih]
    · rw [if_neg hmore, ← List.append_assoc, eraseDups_concat, ih]
      simp only [List.mem_append, List.mem_eraseDups]

theorem keys_insert_of_eraseDups {t : Table α} {names : List String}
    (h : t.keys = names.eraseDups) (key : String) (v : α) :
    (t.insert key v).keys = (names ++ [key]).eraseDups := by
  rw [keys_insert, h, eraseDups_concat]
  simp only [List.mem_eraseDups]

theorem keys_foldl_insert (pairs : List (String × α)) {t : Table α} {names : List String}
    (h : t.keys = names.eraseDups) :
    (pairs.foldl (fun t p => t.insert p.1 p.2) t).keys =
      (names ++ pairs.map Prod.fst).eraseDups := by
  induction pairs generalizing t names with
  | nil => simpa using h
  | cons p pairs ih =>
    rw [List.foldl_cons, ih (keys_insert_of_eraseDups h p.1 p.2), List.map_cons, List.append_assoc,
      List.singleton_append]

theorem keys_ofList (pairs : List (String × α)) :
    (ofList pairs).keys = (pairs.map Prod.fst).eraseDups :=
  @keys_foldl_insert α pairs empty [] rfl

theorem get?_of_prefix {t u : Table α} (h : t.toList <+: u.toList) {key : String} {v : α}
    (hv : t.get? key = some v) : u.get? key = some v := by
  obtain ⟨more, hmore⟩ := h
  have hu : u.get? key = lookup key (t.toList ++ more) := by
    rw [hmore]
    rfl
  have ht : lookup key t.toList = some v := hv
  rw [hu, lookup_append, ht]
  rfl

def take (t : Table α) (n : Nat) : Table α := ⟨t.entries.take n⟩

section
variable {δ : Type} {name : δ → String} {value : δ → Table α → α} {ds es : List δ}

def enter (name : δ → String) (value : δ → Table α → α) (t : Table α) (d : δ) : Table α :=
  t.insert (name d) (value d t)

def fill (name : δ → String) (value : δ → Table α → α) (ds : List δ) : Table α :=
  ds.foldl (enter name value) empty

end

end OrgPipeline.Table
