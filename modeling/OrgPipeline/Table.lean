/-!
# Tables in insertion order

A table maps texts to values and remembers the order in which its keys first
came. Inserting under a present key replaces the value and keeps the place.
-/

set_option autoImplicit false

namespace OrgPipeline

structure Table (α : Type) where
  entries : List (String × α)

namespace Table
variable {α β : Type}

def empty : Table α := ⟨[]⟩

instance : Inhabited (Table α) := ⟨empty⟩

def toList (t : Table α) : List (String × α) := t.entries

def keys (t : Table α) : List String := t.entries.map Prod.fst

def size (t : Table α) : Nat := t.entries.length

def isEmpty (t : Table α) : Bool := t.entries.isEmpty

def lookup (key : String) : List (String × α) → Option α
  | [] => none
  | (k, v) :: rest => if k = key then some v else lookup key rest

def get? (t : Table α) (key : String) : Option α := lookup key t.entries

def contains (t : Table α) (key : String) : Bool := (t.get? key).isSome

def put (key : String) (value : α) : List (String × α) → List (String × α)
  | [] => [(key, value)]
  | (k, v) :: rest => if k = key then (key, value) :: rest else (k, v) :: put key value rest

def insert (t : Table α) (key : String) (value : α) : Table α := ⟨put key value t.entries⟩

def ofList (pairs : List (String × α)) : Table α :=
  pairs.foldl (fun t p => t.insert p.1 p.2) empty

def map (f : α → β) (t : Table α) : Table β := ⟨t.entries.map fun p => (p.1, f p.2)⟩

@[simp] theorem toList_empty : (empty : Table α).toList = [] := rfl

@[simp] theorem get?_empty (key : String) : (empty : Table α).get? key = none := rfl

theorem lookup_put (key k : String) (v : α) (es : List (String × α)) :
    lookup k (put key v es) = if key = k then some v else lookup k es := by
  induction es with
  | nil => simp [put, lookup]
  | cons e es ih =>
    obtain ⟨a, b⟩ := e
    by_cases h : a = key
    · subst h; by_cases hk : a = k <;> simp [put, lookup, hk]
    · by_cases hk : a = k
      · subst hk; simp [put, lookup, h, Ne.symm h]
      · simp [put, lookup, h, hk, ih]

theorem get?_insert (t : Table α) (key k : String) (v : α) :
    (t.insert key v).get? k = if key = k then some v else t.get? k :=
  lookup_put key k v t.entries

theorem lookup_eq_none_iff (key : String) (es : List (String × α)) :
    lookup key es = none ↔ key ∉ es.map Prod.fst := by
  induction es with
  | nil => simp [lookup]
  | cons e es ih =>
    obtain ⟨a, b⟩ := e
    by_cases h : a = key
    · simp [lookup, h]
    · simp [lookup, h, Ne.symm h, ih]

theorem put_of_not_mem (key : String) (v : α) (es : List (String × α))
    (h : key ∉ es.map Prod.fst) : put key v es = es ++ [(key, v)] := by
  induction es with
  | nil => rfl
  | cons e es ih =>
    obtain ⟨a, b⟩ := e
    simp only [List.map_cons, List.mem_cons, not_or] at h
    simp [put, Ne.symm h.1, ih h.2]

theorem keys_put_of_mem (key : String) (v : α) (es : List (String × α))
    (h : key ∈ es.map Prod.fst) : (put key v es).map Prod.fst = es.map Prod.fst := by
  induction es with
  | nil => simp at h
  | cons e es ih =>
    obtain ⟨a, b⟩ := e
    by_cases ha : a = key
    · simp [put, ha]
    · simp only [List.map_cons, List.mem_cons, Ne.symm ha, false_or] at h
      simp [put, ha, ih h]

end Table
end OrgPipeline
