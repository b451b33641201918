import Mathlib.Data.List.Forall2
import OrgPipeline.Schema
import OrgPipeline.Proofs.Json.Members

/-!
# Records that fit

A record fits if each of its fields does: the member of the field's name, or what
stands for a missing one. Of members with distinct names none is checked twice, so
the check of the members and the reading of the fields come to the same.
-/

set_option autoImplicit false

namespace OrgPipeline

namespace Fit
variable {α β : Type}

theorem map_ok_iff {f : α → β} {r : Fit α} {b : β} :
    r.map f = .ok b ↔ ∃ a, r = .ok a ∧ f a = b := by
  cases r with
  | error why => simp [Except.map]
  | ok a => simp [Except.map]

theorem toOption_eq_some {r : Fit α} {a : α} : r.toOption = some a ↔ r = .ok a := by
  cases r <;> simp [Except.toOption]

theorem text_ok {v : Json} {s : String} : text v = .ok s ↔ v = .str s := by
  cases v <;> simp [text]

theorem option_ok {inner : Json → Fit α} {v : Json} {o : Option α} :
    option inner v = .ok o ↔
      v = .null ∧ o = none ∨ v ≠ .null ∧ ∃ a, inner v = .ok a ∧ o = some a := by
  unfold option
  split
  · simp [eq_comm]
  · next hv =>
    have hne : v ≠ .null := hv
    rw [map_ok_iff]
    simp [hne, eq_comm]

theorem mapM_ok {inner : Json → Fit α} {items : List Json} {as : List α} :
    items.mapM inner = .ok as ↔ List.Forall₂ (fun v a => inner v = .ok a) items as := by
  induction items generalizing as with
  | nil =>
    rw [List.forall₂_nil_left_iff]
    simp [pure, Except.pure, eq_comm]
  | cons v items ih =>
    rw [List.mapM_cons]
    cases as with
    | nil =>
      cases inner v <;> cases items.mapM inner <;> simp [bind, Except.bind, pure, Except.pure]
    | cons a as =>
      rw [List.forall₂_cons, ← ih]
      cases inner v <;> cases items.mapM inner <;> simp [bind, Except.bind, pure, Except.pure]

theorem texts_ok {v : Json} {ss : List String} : list text v = .ok ss ↔ v = .strings ss := by
  cases v with
  | arr items =>
    simp only [list, Json.strings, Json.arr.injEq, mapM_ok, text_ok]
    rw [← List.forall₂_map_right_iff, List.forall₂_eq_eq_eq]
  | _ => simp [list, Json.strings]

end Fit

namespace Schema

section
variable {α β : Type} {members : Json.Members}

theorem ofMembers_map_ok {f : α → β} {s : Schema α} {b : β} :
    (f <$> s).ofMembers members = .ok b ↔ ∃ a, s.ofMembers members = .ok a ∧ f a = b :=
  Fit.map_ok_iff

theorem ofMembers_seq_ok {f : Schema (α → β)} {s : Schema α} {b : β} :
    (f <*> s).ofMembers members = .ok b ↔
      ∃ g, f.ofMembers members = .ok g ∧ ∃ a, s.ofMembers members = .ok a ∧ g a = b := by
  have hseq : (f <*> s).ofMembers members =
      (f.ofMembers members >>= fun g => (s.ofMembers members).map g) := rfl
  rw [hseq]
  cases hf : f.ofMembers members with
  | error why => simp [bind, Except.bind]
  | ok g => simp [bind, Except.bind, Fit.map_ok_iff]

theorem ofMembers_field_ok {name : String} {inner : Json → Fit α} {absent : Fit α} {inRow : Bool}
    {a : α} :
    (field name inner absent inRow).ofMembers members = .ok a ↔
      (∃ v, Json.lookup name members = some v ∧ inner v = .ok a) ∨
        Json.lookup name members = none ∧ absent = .ok a := by
  unfold field
  dsimp only
  cases Json.lookup name members with
  | none => simp
  | some v => simp

def Checks (s : Schema α) : Prop :=
  ∀ members a, s.ofMembers members = .ok a →
    ∀ f ∈ s.fields, ∀ v, Json.lookup f.name members = some v → f.check v = .ok ()

theorem checks_field (name : String) (inner : Json → Fit α) (absent : Fit α) (inRow : Bool) :
    (field name inner absent inRow).Checks := by
  intro members a h f hf v hv
  obtain rfl := List.mem_singleton.1 hf
  rcases ofMembers_field_ok.1 h with ⟨u, hu, hinner⟩ | ⟨hnone, -⟩
  · obtain rfl : u = v := Option.some.inj (hu.symm.trans hv)
    exact Fit.map_ok_iff.2 ⟨a, hinner, rfl⟩
  · exact absurd (hnone.symm.trans hv) nofun

theorem Checks.map {s : Schema α} (hs : s.Checks) (f : α → β) : (f <$> s).Checks := by
  intro members b h
  obtain ⟨a, ha, -⟩ := ofMembers_map_ok.1 h
  exact hs members a ha

theorem Checks.seq {f : Schema (α → β)} {s : Schema α} (hf : f.Checks) (hs : s.Checks) :
    (f <*> s).Checks := by
  intro members b h field hfield
  obtain ⟨g, hg, a, ha, -⟩ := ofMembers_seq_ok.1 h
  have hfields : (f <*> s).fields = f.fields ++ s.fields := rfl
  rw [hfields, List.mem_append] at hfield
  rcases hfield with hfield | hfield
  · exact hf members g hg field hfield
  · exact hs members a ha field hfield

theorem checkMembers_ok {strict : Bool} {fields : List Field}
    (hdeclared : strict = true → ∀ m ∈ members, m.1 ∈ fields.map Field.name)
    (h : ∀ m ∈ members, ∀ f ∈ fields, f.name = m.1 → f.check m.2 = .ok ()) :
    checkMembers strict fields members = .ok () := by
  induction members with
  | nil => rfl
  | cons m rest ih =>
    obtain ⟨name, v⟩ := m
    rw [List.forall_mem_cons] at h
    have hrest := ih (fun hstrict m hm => hdeclared hstrict m (List.mem_cons_of_mem _ hm)) h.2
    rw [checkMembers]
    cases hfind : fields.find? (·.name = name) with
    | none =>
      have hunknown : name ∉ fields.map Field.name := by
        intro hmem
        obtain ⟨f, hf, rfl⟩ := List.mem_map.1 hmem
        exact List.find?_eq_none.1 hfind f hf (decide_eq_true rfl)
      cases strict with
      | true => exact absurd (hdeclared rfl _ List.mem_cons_self) hunknown
      | false => exact hrest
    | some f =>
      have hname : f.name = name := by simpa using List.find?_some hfind
      dsimp only
      rw [h.1 f (List.mem_of_find?_eq_some hfind) hname]
      exact hrest

/-- A strict check goes past no member that is not declared. -/
theorem declared_of_checkMembers {fields : List Field}
    (h : checkMembers true fields members = .ok ()) :
    ∀ m ∈ members, m.1 ∈ fields.map Field.name := by
  induction members with
  | nil => simp
  | cons m rest ih =>
    obtain ⟨name, v⟩ := m
    rw [checkMembers] at h
    cases hfind : fields.find? (·.name = name) with
    | none =>
      rw [hfind] at h
      cases h
    | some f =>
      have hname : f.name = name := by simpa using List.find?_some hfind
      rw [hfind] at h
      dsimp only at h
      rw [List.forall_mem_cons]
      refine ⟨List.mem_map.2 ⟨f, List.mem_of_find?_eq_some hfind, hname⟩, ih ?_⟩
      cases hcheck : f.check v with
      | error why =>
        rw [hcheck] at h
        cases h
      | ok =>
        rw [hcheck] at h
        exact h

theorem readMembers_eq_ok {strict : Bool} {s : Schema α} {a : α} :
    s.readMembers strict members = .ok a ↔
      checkMembers strict s.fields members = .ok () ∧ s.ofMembers members = .ok a := by
  unfold readMembers
  cases checkMembers strict s.fields members with
  | error why => simp [bind, Except.bind]
  | ok => simp [bind, Except.bind]

theorem Checks.of_read {s : Schema α} (hs : s.Checks) (h : (members.map Prod.fst).Nodup) {a : α}
    (ha : s.ofMembers members = .ok a) :
    ∀ m ∈ members, ∀ f ∈ s.fields, f.name = m.1 → f.check m.2 = .ok () := by
  rintro ⟨name, v⟩ hm f hf rfl
  exact hs members a ha f hf v ((Json.lookup_eq_some_iff h).2 hm)

theorem readMembers_ok_iff {s : Schema α} (hs : s.Checks) (h : (members.map Prod.fst).Nodup)
    {a : α} : s.readMembers false members = .ok a ↔ s.ofMembers members = .ok a := by
  rw [readMembers_eq_ok]
  exact ⟨And.right, fun ha => ⟨checkMembers_ok nofun (hs.of_read h ha), ha⟩⟩

theorem readMembers_strict_ok_iff {s : Schema α} (hs : s.Checks)
    (h : (members.map Prod.fst).Nodup) {a : α} :
    s.readMembers true members = .ok a ↔
      (∀ m ∈ members, m.1 ∈ s.names) ∧ s.ofMembers members = .ok a := by
  rw [readMembers_eq_ok]
  constructor
  · rintro ⟨hcheck, ha⟩
    exact ⟨declared_of_checkMembers hcheck, ha⟩
  · rintro ⟨hdeclared, ha⟩
    exact ⟨checkMembers_ok (fun _ => hdeclared) (hs.of_read h ha), ha⟩

theorem ofItems_map_ok {f : α → β} {s : Schema α} {expected : String} {place : Nat}
    {items rest : List Json} {b : β} :
    (f <$> s).ofItems expected place items = .ok (b, rest) ↔
      ∃ a, s.ofItems expected place items = .ok (a, rest) ∧ f a = b := by
  refine Fit.map_ok_iff.trans ?_
  simp

theorem ofItems_seq_ok {f : Schema (α → β)} {s : Schema α} {expected : String} {place : Nat}
    {items rest : List Json} {b : β} :
    (f <*> s).ofItems expected place items = .ok (b, rest) ↔
      ∃ g between, f.ofItems expected place items = .ok (g, between) ∧
        ∃ a, s.ofItems expected (place + f.fields.length) between = .ok (a, rest) ∧ g a = b := by
  have hseq : (f <*> s).ofItems expected place items =
      (f.ofItems expected place items >>= fun r =>
        (s.ofItems expected (place + f.fields.length) r.2).map fun q => (r.1 q.1, q.2)) := rfl
  rw [hseq]
  cases hf : f.ofItems expected place items with
  | error why => simp [bind, Except.bind]
  | ok r =>
    obtain ⟨g, between⟩ := r
    simp only [bind, Except.bind, Fit.map_ok_iff]
    constructor
    · rintro ⟨⟨a, rest'⟩, ha, hb⟩
      cases hb
      exact ⟨g, between, rfl, a, ha, rfl⟩
    · rintro ⟨g', between', hsame, a, ha, rfl⟩
      cases hsame
      exact ⟨(a, rest), ha, rfl⟩

theorem ofItems_field_ok {name : String} {inner : Json → Fit α} {absent : Fit α} {inRow : Bool}
    {expected : String} {place : Nat} {items rest : List Json} {a : α} :
    (field name inner absent inRow).ofItems expected place items = .ok (a, rest) ↔
      (∃ v, items = v :: rest ∧ inner v = .ok a) ∨
        items = [] ∧ rest = [] ∧ inRow = true ∧ absent = .ok a := by
  unfold field
  dsimp only
  cases items with
  | nil =>
    cases inRow with
    | false => simp
    | true =>
      rw [if_pos rfl, Fit.map_ok_iff]
      constructor
      · rintro ⟨b, hb, hpair⟩
        cases hpair
        exact Or.inr ⟨rfl, rfl, rfl, hb⟩
      · rintro (⟨v, hv, -⟩ | ⟨-, rfl, -, hb⟩)
        · cases hv
        · exact ⟨a, hb, rfl⟩
  | cons v items =>
    rw [Fit.map_ok_iff]
    constructor
    · rintro ⟨b, hb, hpair⟩
      cases hpair
      exact Or.inl ⟨v, rfl, hb⟩
    · rintro (⟨u, hu, hb⟩ | ⟨hnil, -⟩)
      · cases hu
        exact ⟨a, hb, rfl⟩
      · cases hnil

theorem read_array_ok {strict : Bool} {type : String} {s : Schema α} {items : List Json} {a : α} :
    s.read strict type (.arr items) = .ok a ↔
      s.ofItems ("struct " ++ type ++ " with " ++ toString s.fields.length ++
        (if s.fields.length = 1 then " element" else " elements")) 0 items = .ok (a, []) := by
  rw [read]
  cases s.ofItems _ 0 items with
  | error why => simp [bind, Except.bind]
  | ok r =>
    obtain ⟨b, rest⟩ := r
    cases rest <;> simp [bind, Except.bind]

end

end Schema
end OrgPipeline
