import Mathlib.Tactic.ByContra
import OrgPipeline.Proofs.Step.Parameters

/-!
# Kinds of steps and their types

A type that is listed has a reader, and what the reader makes is a kind of that type.
It takes the parameters of the kind and no others, and from the parameters of a kind as
they are written it makes the kind again.
-/

set_option autoImplicit false

namespace OrgPipeline
namespace StepKind

def written (k : StepKind) : Json.Members := Json.sortMembers (k.members?.getD [])

def parameters (k : StepKind) : List String := (k.members?.getD []).map Prod.fst

structure Faithful (read : Json.Members → Fit StepKind) (k : StepKind) : Prop where
  declared : ∀ p k', read p = .ok k' → ∀ m ∈ p, m.1 ∈ k.parameters
  finite : ∀ p, Json.Proper p → read p = .ok k → k.Finite
  back : k.Finite → read k.written = .ok k

section
variable {α : Type} {s : Schema α} {write : α → Json.Members} {kind : α → StepKind}

theorem faithful_reader (h : s.ReadsBack write id fun a => (kind a).literals)
    (hnames : s.names.Nodup) (hwritten : ∀ a, (kind a).members? = some (write a))
    (hfinite : ∀ p, Json.Proper p → s.Yields p fun a => (kind a).Finite) (a : α) :
    Faithful (reader s kind) (kind a) where
  declared p k' hread := by
    obtain ⟨b, hb, -⟩ := Fit.map_ok_iff.1 hread
    have hdeclared := Schema.declared_of_checkMembers (Schema.readMembers_eq_ok.1 hb).1
    have hparameters : (kind a).parameters = s.names := by
      rw [parameters, hwritten]
      exact h.names a
    rw [hparameters]
    exact hdeclared
  finite p hp hread := by
    obtain ⟨b, hb, hkind⟩ := Fit.map_ok_iff.1 hread
    rw [← hkind]
    exact hfinite p hp b (Schema.readMembers_eq_ok.1 hb).2
  back hk := by
    have hback := h.readMembers hnames hk
    rw [reader, written, hwritten, Option.getD_some, hback]
    rfl

theorem faithful_plain (h : s.ReadsBack write id fun _ => []) (hnames : s.names.Nodup)
    (hwritten : ∀ a, (kind a).members? = some (write a)) (hplain : ∀ a, (kind a).literals = [])
    (a : α) : Faithful (reader s kind) (kind a) := by
  have hliterals : (fun a => (kind a).literals) = fun _ => [] := funext hplain
  refine faithful_reader (hliterals ▸ h) hnames hwritten ?_ a
  intro p _ b _
  rw [Finite, hplain]
  exact List.forall_mem_nil _

end

theorem bare_eq_ok {kind k : StepKind} {p : Json.Members} :
    bare kind p = .ok k ↔ p = [] ∧ kind = k := by
  cases p with
  | nil => simp [bare]
  | cons m rest => simp [bare]

theorem faithful_authList : Faithful (bare authList) authList where
  declared p k' hread := by
    obtain ⟨rfl, -⟩ := bare_eq_ok.1 hread
    nofun
  finite _ _ _ := nofun
  back _ := rfl

/-- The type of a kind has a reader that is faithful to the kind. -/
theorem exists_reader {k : StepKind} (hk : k.isUnsupported = false) :
    ∃ read, reader? k.typeName = some read ∧ Faithful read k := by
  cases k with
  | changeSet p =>
    exact ⟨_, rfl, faithful_reader ChangeSetParams.readsBack (by decide) (fun _ => rfl)
      (fun _ => ChangeSetParams.finite) p⟩
  | transfer p =>
    exact ⟨_, rfl, faithful_reader TransferParams.readsBack (by decide) (fun _ => rfl)
      (fun _ => TransferParams.finite) p⟩
  | authAccessToken p =>
    exact ⟨_, rfl, faithful_plain AccessTokenParams.readsBack (by decide) (fun _ => rfl)
      (fun _ => rfl) p⟩
  | authList => exact ⟨_, rfl, faithful_authList⟩
  | authLogout p =>
    exact ⟨_, rfl, faithful_plain TargetOrgParams.readsBack (by decide) (fun _ => rfl)
      (fun _ => rfl) p⟩
  | authSfdxUrl p =>
    exact ⟨_, rfl, faithful_plain SfdxUrlParams.readsBack (by decide) (fun _ => rfl)
      (fun _ => rfl) p⟩
  | apexExecute p =>
    exact ⟨_, rfl, faithful_plain ApexExecuteParams.readsBack (by decide) (fun _ => rfl)
      (fun _ => rfl) p⟩
  | apexTest p =>
    exact ⟨_, rfl, faithful_plain ApexTestParams.readsBack (by decide) (fun _ => rfl)
      (fun _ => rfl) p⟩
  | bulkDelete p =>
    exact ⟨_, rfl, faithful_reader BulkDeleteParams.readsBack (by decide) (fun _ => rfl)
      (fun _ => BulkDeleteParams.finite) p⟩
  | bulkUpsert p =>
    exact ⟨_, rfl, faithful_reader BulkUpsertParams.readsBack (by decide) (fun _ => rfl)
      (fun _ => BulkUpsertParams.finite) p⟩
  | treeImport p =>
    exact ⟨_, rfl, faithful_plain TreeImportParams.readsBack (by decide) (fun _ => rfl)
      (fun _ => rfl) p⟩
  | queryCsv p =>
    exact ⟨_, rfl, faithful_plain QueryCsvParams.readsBack (by decide) (fun _ => rfl)
      (fun _ => rfl) p⟩
  | deploy p =>
    exact ⟨_, rfl, faithful_reader DeployParams.readsBack (by decide) (fun _ => rfl)
      (fun _ => DeployParams.finite) p⟩
  | retrieve p =>
    exact ⟨_, rfl, faithful_plain RetrieveParams.readsBack (by decide) (fun _ => rfl)
      (fun _ => rfl) p⟩
  | createScratchOrg p =>
    exact ⟨_, rfl, faithful_reader ScratchOrgParams.readsBack (by decide) (fun _ => rfl)
      (fun _ => ScratchOrgParams.finite) p⟩
  | deleteOrg p =>
    exact ⟨_, rfl, faithful_plain OrgDeleteParams.readsBack (by decide) (fun _ => rfl)
      (fun _ => rfl) p⟩
  | displayOrg p =>
    exact ⟨_, rfl, faithful_plain TargetOrgParams.readsBack (by decide) (fun _ => rfl)
      (fun _ => rfl) p⟩
  | installPackage p =>
    exact ⟨_, rfl, faithful_plain PackageInstallParams.readsBack (by decide) (fun _ => rfl)
      (fun _ => rfl) p⟩
  | pushSource p =>
    exact ⟨_, rfl, faithful_reader SourcePushParams.readsBack (by decide) (fun _ => rfl)
      (fun _ => SourcePushParams.finite) p⟩
  | unsupported type => cases hk

def Makes (type : String) (read : Json.Members → Fit StepKind) : Prop :=
  ∀ p k, read p = .ok k → k.typeName = type ∧ k.isUnsupported = false

theorem makes_reader {α : Type} {type : String} {s : Schema α} {kind : α → StepKind}
    (h : ∀ a, (kind a).typeName = type ∧ (kind a).isUnsupported = false) :
    Makes type (reader s kind) := by
  intro p k hread
  obtain ⟨a, -, rfl⟩ := Fit.map_ok_iff.1 hread
  exact h a

theorem makes_bare {type : String} {kind : StepKind}
    (h : kind.typeName = type ∧ kind.isUnsupported = false) : Makes type (bare kind) := by
  intro p k hread
  obtain ⟨-, rfl⟩ := bare_eq_ok.1 hread
  exact h

theorem reader?_eq_none {type : String} : reader? type = none ↔ type ∉ types := by
  have hlisted : ∀ t ∈ types, (reader? t).isSome = true := by decide
  constructor
  · intro h hmem
    have hsome := hlisted type hmem
    rw [h] at hsome
    cases hsome
  · intro h
    simp only [types, List.mem_cons, not_or] at h
    simp only [reader?, h, if_false]

theorem makes_of_reader? {type : String} {read : Json.Members → Fit StepKind}
    (h : reader? type = some read) : Makes type read := by
  have hlisted : type ∈ types := by
    by_contra hnot
    rw [reader?_eq_none.2 hnot] at h
    cases h
  simp only [types, List.mem_cons, List.not_mem_nil, or_false] at hlisted
  rcases hlisted with rfl | rfl | rfl | rfl | hlisted
  case inr.inr.inr.inl =>
    cases h
    exact makes_bare ⟨rfl, rfl⟩
  case inr.inr.inr.inr =>
    rcases hlisted with rfl | rfl | rfl | rfl | rfl | rfl | rfl | rfl | rfl | rfl | rfl | rfl |
      rfl | rfl | rfl
    all_goals
      cases h
      exact makes_reader fun _ => ⟨rfl, rfl⟩
  all_goals
    cases h
    exact makes_reader fun _ => ⟨rfl, rfl⟩

theorem parse_eq_some {type : String} {p : Json.Members} {k : StepKind} :
    parse type p = .ok (some k) ↔ ∃ read, reader? type = some read ∧ read p = .ok k := by
  unfold parse
  cases reader? type with
  | none => simp
  | some read => simp [Fit.map_ok_iff]

theorem parse_eq_none {type : String} {p : Json.Members} :
    parse type p = .ok none ↔ type ∉ types := by
  rw [← reader?_eq_none]
  unfold parse
  cases reader? type with
  | none => simp
  | some read => simp [Fit.map_ok_iff]

theorem makes_of_parse {type : String} {p : Json.Members} {k : StepKind}
    (h : parse type p = .ok (some k)) : k.typeName = type ∧ k.isUnsupported = false := by
  obtain ⟨read, hread, hk⟩ := parse_eq_some.1 h
  exact makes_of_reader? hread p k hk

/-- Parameters go with a kind of a type: the kind has all of them, is read again from what
is written of it, and has no place for any other parameter. -/
structure Belong (type : String) (p : Json.Members) (k : StepKind) : Prop where
  typeName : k.typeName = type
  supported : k.isUnsupported = false
  declared : ∀ m ∈ p, m.1 ∈ k.parameters
  again : parse type k.written = .ok (some k)
  closed : ∀ name v, name ∉ k.parameters → ∃ why, parse type (Json.putMember name v p) = .error why

theorem parse_written_of_finite {k : StepKind} (hk : k.isUnsupported = false) (hfinite : k.Finite) :
    parse k.typeName k.written = .ok (some k) := by
  obtain ⟨read, hread, hfaithful⟩ := exists_reader hk
  exact parse_eq_some.2 ⟨read, hread, hfaithful.back hfinite⟩

theorem belong_of_parse {type : String} {p : Json.Members} {k : StepKind} (hp : Json.Proper p)
    (h : parse type p = .ok (some k)) : Belong type p k := by
  obtain ⟨rfl, hk⟩ := makes_of_parse h
  obtain ⟨read, hread, hfaithful⟩ := exists_reader hk
  obtain ⟨_, hsame, hpk⟩ := parse_eq_some.1 h
  cases hread.symm.trans hsame
  refine ⟨rfl, hk, hfaithful.declared p k hpk, ?_, ?_⟩
  · exact parse_written_of_finite hk (hfaithful.finite p hp hpk)
  · intro name v hname
    have hput : (name, v) ∈ Json.putMember name v p :=
      Json.mem_of_lookup (by rw [Json.lookup_putMember, if_pos rfl])
    cases hresult : parse k.typeName (Json.putMember name v p) with
    | error why => exact ⟨why, rfl⟩
    | ok o =>
      exfalso
      cases o with
      | none =>
        rw [reader?_eq_none.2 (parse_eq_none.1 hresult)] at hread
        cases hread
      | some k' =>
        obtain ⟨_, hsame', hk'⟩ := parse_eq_some.1 hresult
        cases hread.symm.trans hsame'
        exact hname (hfaithful.declared _ k' hk' _ hput)

/-- A type has no reader exactly if it is not listed. What is read of parameters under a
type is a kind of that type, has these parameters and no others, and is read again from
what is written of it. Every kind with finite numbers only is read from what is written
of it. -/
theorem parse_faithful :
    (∀ type p, parse type p = .ok none ↔ type ∉ types) ∧
      (∀ type p k, Json.Proper p → parse type p = .ok (some k) → Belong type p k) ∧
      ∀ k : StepKind, k.isUnsupported = false → k.Finite →
        parse k.typeName k.written = .ok (some k) :=
  ⟨fun _ _ => parse_eq_none, fun _ _ _ => belong_of_parse, fun _ => parse_written_of_finite⟩

theorem parse_faithful_push :
    let p : Json.Members := [("forceOverwrite", .num (.int 2)), ("targetUserName", .str "dev")]
    let k := pushSource ⟨"dev", some (.number (Decimal.ofInt 2))⟩
    Json.Proper p ∧ parse "sfdx.force.source.push" p = .ok (some k) ∧ k.Finite ∧
      Belong "sfdx.force.source.push" p k ∧ parse k.typeName k.written = .ok (some k) := by
  intro p k
  have hproper : Json.Proper p := by
    refine ⟨by decide, ?_⟩
    intro m hm n hn
    simp only [p, List.mem_cons, List.not_mem_nil, or_false] at hm
    rcases hm with rfl | rfl
    · cases hn
      exact ⟨by decide, by decide⟩
    · cases hn
  have hparse : parse "sfdx.force.source.push" p = .ok (some k) := rfl
  have hfinite : k.Finite := by
    intro q hq
    cases List.mem_singleton.1 hq
    exact Decimal.isFinite_ofInt (by decide)
  exact ⟨hproper, hparse, hfinite, parse_faithful.2.1 _ p k hproper hparse,
    parse_faithful.2.2 k rfl hfinite⟩

end StepKind
end OrgPipeline
