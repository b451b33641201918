import OrgPipeline.Proofs.Decimal.Finite
import OrgPipeline.Proofs.Json.Members
import OrgPipeline.Proofs.Schema
import OrgPipeline.Param

/-!
# Records that are read back

What is written of a record has one member for each of its fields, and from these
members the record is read again. A schema is put together field by field, and so is
the proof: each further field needs to be read back from its own value only. Numbers
must be finite for that, since others are written as null.
-/

set_option autoImplicit false

namespace OrgPipeline

theorem Json.lookup_sortMembers {members : Json.Members} (h : (members.map Prod.fst).Nodup)
    (name : String) : lookup name (sortMembers members) = lookup name members :=
  get?_object h name

theorem Json.mem_of_lookup {name : String} {v : Json} {members : Json.Members}
    (h : lookup name members = some v) : (name, v) ∈ members := by
  induction members with
  | nil => cases h
  | cons m rest ih =>
    obtain ⟨other, u⟩ := m
    rw [lookup] at h
    split at h
    · next heq =>
      cases h
      rw [heq]
      exact List.mem_cons_self
    · exact List.mem_cons_of_mem _ (ih h)

namespace Fit
variable {α : Type} {inner : Json → Fit α} {write : α → Json}

theorem option_orNull {o : Option α} (h : ∀ a ∈ o, write a ≠ .null ∧ inner (write a) = .ok a) :
    option inner (.orNull (o.map write)) = .ok o := by
  cases o with
  | none => rfl
  | some a =>
    obtain ⟨hnull, hread⟩ := h a rfl
    exact option_ok.2 (Or.inr ⟨hnull, a, hread, rfl⟩)

theorem list_map {as : List α} (h : ∀ a ∈ as, inner (write a) = .ok a) :
    list inner (.arr (as.map write)) = .ok as := by
  rw [list, mapM_ok, List.forall₂_map_left_iff, List.forall₂_same]
  exact h

end Fit

namespace Param

def Finite : Param → Prop
  | number x => x.isFinite = true
  | _ => True

theorem ofJson_toJson {p : Param} (h : p.Finite) :
    p.toJson ≠ .null ∧ ofJson p.toJson = .ok p := by
  cases p with
  | bool b => exact ⟨nofun, rfl⟩
  | number x =>
    have hx : x.isFinite = true := h
    rw [toJson, if_pos hx]
    exact ⟨nofun, rfl⟩
  | text s => exact ⟨nofun, rfl⟩

end Param

namespace Schema

/-- From what is written of a record, the schema reads what belongs to the record, if
the literals in it are finite. -/
structure ReadsBack {ρ α : Type} (s : Schema α) (write : ρ → Json.Members) (get : ρ → α)
    (literals : ρ → List Param) : Prop where
  checks : s.Checks
  names : ∀ r, (write r).map Prod.fst = s.names
  reads : ∀ r members, (∀ p ∈ literals r, p.Finite) →
    (∀ m ∈ write r, Json.lookup m.1 members = some m.2) → s.ofMembers members = .ok (get r)

namespace ReadsBack
variable {ρ α β : Type} {literals : ρ → List Param} {inner : Json → Fit α}

theorem first {name : String} {absent : Fit α} {inRow : Bool} {get : ρ → α} {write : ρ → Json}
    (mk : α → β) (h : ∀ r, inner (write r) = .ok (get r)) :
    ReadsBack (mk <$> field name inner absent inRow) (fun r => [(name, write r)])
      (fun r => mk (get r)) literals where
  checks := (checks_field name inner absent inRow).map mk
  names _ := rfl
  reads r members _ hmembers := by
    have hv := hmembers _ List.mem_cons_self
    exact ofMembers_map_ok.2 ⟨get r, ofMembers_field_ok.2 (Or.inl ⟨_, hv, h r⟩), rfl⟩

theorem next {f : Schema (α → β)} {w : ρ → Json.Members} {g : ρ → α → β}
    (hf : ReadsBack f w g literals) {name : String} {absent : Fit α} {inRow : Bool} {get : ρ → α}
    {write : ρ → Json} (h : ∀ r, (∀ p ∈ literals r, p.Finite) → inner (write r) = .ok (get r)) :
    ReadsBack (f <*> field name inner absent inRow) (fun r => w r ++ [(name, write r)])
      (fun r => g r (get r)) literals where
  checks := hf.checks.seq (checks_field name inner absent inRow)
  names r := by
    have hnames : (f <*> field name inner absent inRow).names = f.names ++ [name] :=
      List.map_append
    rw [hnames, List.map_append, hf.names]
    rfl
  reads r members hr hmembers := by
    rw [List.forall_mem_append] at hmembers
    have hv := hmembers.2 _ (List.mem_singleton.2 rfl)
    exact ofMembers_seq_ok.2 ⟨g r, hf.reads r members hr hmembers.1, get r,
      ofMembers_field_ok.2 (Or.inl ⟨_, hv, h r hr⟩), rfl⟩

theorem firstText (mk : String → β) (name : String) (get : ρ → String)
    (literals : ρ → List Param) :
    ReadsBack (mk <$> .required name Fit.text) (fun r => [(name, .str (get r))])
      (fun r => mk (get r)) literals :=
  first mk fun _ => rfl

theorem firstOptionalText (mk : Option String → β) (name : String) (get : ρ → Option String)
    (literals : ρ → List Param) :
    ReadsBack (mk <$> .optional name Fit.text)
      (fun r => [(name, .orNull ((get r).map .str))]) (fun r => mk (get r)) literals :=
  first mk fun _ => Fit.option_orNull fun _ _ => ⟨nofun, rfl⟩

theorem required {f : Schema (α → β)} {w : ρ → Json.Members} {g : ρ → α → β}
    (hf : ReadsBack f w g literals) (name : String) (get : ρ → α) (write : α → Json)
    (h : ∀ a, inner (write a) = .ok a) :
    ReadsBack (f <*> .required name inner) (fun r => w r ++ [(name, write (get r))])
      (fun r => g r (get r)) literals :=
  hf.next fun r _ => h (get r)

theorem withDefault {f : Schema (α → β)} {w : ρ → Json.Members} {g : ρ → α → β}
    (hf : ReadsBack f w g literals) (name : String) (get : ρ → α) (write : α → Json)
    (h : ∀ a, inner (write a) = .ok a) (default : α) :
    ReadsBack (f <*> .withDefault name inner default) (fun r => w r ++ [(name, write (get r))])
      (fun r => g r (get r)) literals :=
  hf.next fun r _ => h (get r)

theorem text {f : Schema (String → β)} {w : ρ → Json.Members} {g : ρ → String → β}
    (hf : ReadsBack f w g literals) (name : String) (get : ρ → String) :
    ReadsBack (f <*> .required name Fit.text) (fun r => w r ++ [(name, .str (get r))])
      (fun r => g r (get r)) literals :=
  hf.required name get .str fun _ => rfl

theorem optional {f : Schema (Option α → β)} {w : ρ → Json.Members} {g : ρ → Option α → β}
    (hf : ReadsBack f w g literals) (name : String) (get : ρ → Option α) (write : α → Json)
    (h : ∀ a, write a ≠ .null ∧ inner (write a) = .ok a) :
    ReadsBack (f <*> .optional name inner)
      (fun r => w r ++ [(name, .orNull ((get r).map write))]) (fun r => g r (get r)) literals :=
  hf.next fun _ _ => Fit.option_orNull fun a _ => h a

theorem optionalText {f : Schema (Option String → β)} {w : ρ → Json.Members}
    {g : ρ → Option String → β} (hf : ReadsBack f w g literals) (name : String)
    (get : ρ → Option String) :
    ReadsBack (f <*> .optional name Fit.text)
      (fun r => w r ++ [(name, .orNull ((get r).map .str))]) (fun r => g r (get r)) literals :=
  hf.optional name get .str fun _ => ⟨nofun, rfl⟩

theorem param {f : Schema (Option Param → β)} {w : ρ → Json.Members} {g : ρ → Option Param → β}
    (hf : ReadsBack f w g literals) (name : String) (get : ρ → Option Param)
    (h : ∀ r, (get r).toList ⊆ literals r) :
    ReadsBack (f <*> .optional name Param.ofJson)
      (fun r => w r ++ [(name, .orNull ((get r).map Param.toJson))]) (fun r => g r (get r))
      literals :=
  hf.next fun r hr => Fit.option_orNull fun p hp =>
    Param.ofJson_toJson (hr p (h r (Option.mem_toList.2 hp)))

section
variable {s : Schema α} {write : ρ → Json.Members} {get : ρ → α}

theorem written_nodup (h : ReadsBack s write get literals) (hnames : s.names.Nodup) (r : ρ) :
    ((write r).map Prod.fst).Nodup := by
  rw [h.names]
  exact hnames

theorem readMembers (h : ReadsBack s write get literals) (hnames : s.names.Nodup) {r : ρ}
    (hr : ∀ p ∈ literals r, p.Finite) :
    s.readMembers true (Json.sortMembers (write r)) = .ok (get r) := by
  have hnodup := h.written_nodup hnames r
  have hperm := Json.sortMembers_perm (write r) hnodup
  have hsorted := (hperm.map Prod.fst).nodup_iff.2 hnodup
  refine (readMembers_strict_ok_iff h.checks hsorted).2 ⟨?_, h.reads r _ hr ?_⟩
  · intro m hm
    rw [← h.names r]
    exact List.mem_map_of_mem (hperm.mem_iff.1 hm)
  · intro m hm
    rw [Json.lookup_sortMembers hnodup]
    exact (Json.lookup_eq_some_iff hnodup).2 hm

end

end ReadsBack
end Schema

def Number.Fits : Number → Prop
  | .int n => -2 ^ 63 ≤ n ∧ n < 2 ^ 64
  | .float x => x.isFinite = true

theorem Number.Fits.finite {n : Number} (h : n.Fits) : n.toFloat.isFinite = true := by
  cases n with
  | int n =>
    obtain ⟨hlow, hhigh⟩ := h
    exact Decimal.isFinite_ofInt (by omega)
  | float x => exact h

structure Json.Proper (members : Json.Members) : Prop where
  distinct : (members.map Prod.fst).Nodup
  numbers : ∀ m ∈ members, ∀ n, m.2 = .num n → n.Fits

theorem Param.finite_of_ofJson {v : Json} {p : Param} (hv : ∀ n, v = .num n → n.Fits)
    (h : ofJson v = .ok p) : p.Finite := by
  cases v with
  | num n =>
    cases h
    exact (hv n rfl).finite
  | bool b | str s =>
    cases h
    trivial
  | null | arr items | obj members => cases h

theorem Param.finite_of_optional {name : String} {members : Json.Members} {o : Option Param}
    (hm : Json.Proper members)
    (h : (Schema.optional name Param.ofJson).ofMembers members = .ok o) :
    ∀ p ∈ o.toList, p.Finite := by
  intro p hp
  rw [Option.mem_toList] at hp
  rcases Schema.ofMembers_field_ok.1 h with ⟨v, hv, hread⟩ | ⟨-, hnone⟩
  · rcases Fit.option_ok.1 hread with ⟨-, rfl⟩ | ⟨-, q, hq, rfl⟩
    · cases hp
    · cases hp
      exact finite_of_ofJson (hm.numbers _ (Json.mem_of_lookup hv)) hq
  · cases hnone
    cases hp

namespace Schema
variable {α β : Type} {members : Json.Members} {Q : β → Prop}

def Yields (s : Schema α) (members : Json.Members) (P : α → Prop) : Prop :=
  ∀ a, s.ofMembers members = .ok a → P a

theorem Yields.first {mk : α → β} {s : Schema α} (h : ∀ a, Q (mk a)) :
    (mk <$> s).Yields members Q := by
  intro b hb
  obtain ⟨a, -, rfl⟩ := ofMembers_map_ok.1 hb
  exact h a

theorem Yields.next {f : Schema (α → β)} {s : Schema α}
    (h : f.Yields members fun g => ∀ a, Q (g a)) : (f <*> s).Yields members Q := by
  intro b hb
  obtain ⟨g, hg, a, -, rfl⟩ := ofMembers_seq_ok.1 hb
  exact h g hg a

theorem Yields.param {f : Schema (Option Param → β)} {name : String}
    (hm : Json.Proper members)
    (h : f.Yields members fun g => ∀ o : Option Param, (∀ p ∈ o.toList, p.Finite) → Q (g o)) :
    (f <*> .optional name Param.ofJson).Yields members Q := by
  intro b hb
  obtain ⟨g, hg, o, ho, rfl⟩ := ofMembers_seq_ok.1 hb
  exact h g hg o (Param.finite_of_optional hm ho)

end Schema

end OrgPipeline
