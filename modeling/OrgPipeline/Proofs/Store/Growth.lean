import OrgPipeline.Proofs.Pipeline.Prefix
import OrgPipeline.Proofs.Store.Accessors

/-!
# A store grows at its ends

Whatever is asked of a store, in whatever order, it keeps its inputs, its variables and
every record. New records and new diagnostics come behind the old ones. So what a text
resolved to once it resolves to ever after, in the same environment.
-/

set_option autoImplicit false

namespace OrgPipeline
namespace Store

theorem Extends.get? {s t : Store} (h : t.Extends s) {id : String} {record : StepRecord}
    (hrecord : s.outputs.get? id = some record) : t.outputs.get? id = some record :=
  Table.get?_of_prefix h.outputs hrecord

theorem lookup_extends {env : Environment} {s t : Store} (h : t.Extends s) {value : String} :
    ∀ {r : Reference}, s.lookup env r = some value → t.lookup env r = some value
  | .env _, hvalue => hvalue
  | .input _, hvalue => by rwa [lookup, h.inputs]
  | .variable _, hvalue => by rwa [lookup, h.vars]
  | .step _ [], hvalue => hvalue
  | .step _ (_ :: _), hvalue => by
    obtain ⟨record, hrecord, hfound⟩ := Option.bind_eq_some_iff.1 hvalue
    exact Option.bind_eq_some_iff.2 ⟨record, h.get? hrecord, hfound⟩
  | .unknown _, hvalue => hvalue

theorem resolve_extends {env : Environment} {s t : Store} (h : t.Extends s) {raw value : String}
    (hvalue : (resolve env raw s).1 = some value) : (resolve env raw t).1 = some value := by
  rw [resolve_eq, meaning] at hvalue ⊢
  cases hraw : Reference.parse raw with
  | none =>
    rw [hraw] at hvalue
    exact hvalue
  | some r =>
    rw [hraw] at hvalue
    exact lookup_extends h hvalue

theorem Extends.of_notes {α : Type} {b : Binding α} (h : Notes b) (s : Store) :
    (b s).2.Extends s := by
  obtain ⟨ds, hds⟩ := h s
  rw [hds]
  exact extends_notes s ds

theorem setOutput_of_contains {s : Store} {id : String} (h : s.outputs.contains id = true)
    (record : StepRecord) : s.setOutput id record = s := by
  rw [setOutput, if_pos h]

/-- What is asked of a store once it has been set up. Every request comes in an
environment of its own, and a step with tools and a world of its own. -/
inductive Request where
  | record (id : String) (result : Except Error (Option Json))
  | resolve (env : Environment) (raw : String)
  | text (env : Environment) (raw : String)
  | number (env : Environment) (p : Param)
  | optionalNumber (env : Environment) (p : Option Param)
  | boolean (env : Environment) (p : Param)
  | execute (c : RunContext) (kind : StepKind) (w : World)

def after (s : Store) : Request → Store
  | .record id result => s.setOutput id (.ofResult result)
  | .resolve env raw => (Store.resolve env raw s).2
  | .text env raw => (textValue env raw s).2
  | .number env p => (numberValue env p s).2
  | .optionalNumber env p => (Store.optionalNumber env p s).2
  | .boolean env p => (boolValue env p s).2
  | .execute c kind w => (kind.execute c.env c.tools c.directory s w).1.2

def afterAll (s : Store) (requests : List Request) : Store := requests.foldl after s

theorem after_extends (s : Store) (request : Request) : (s.after request).Extends s := by
  cases request with
  | record id result => exact extends_setOutput s id _
  | resolve env raw => exact .of_notes (notes_resolve env raw) s
  | text env raw => exact .of_notes (notes_textValue env raw) s
  | number env p => exact .of_notes (notes_numberValue env p) s
  | optionalNumber env p => exact .of_notes (notes_optionalNumber env p) s
  | boolean env p => exact .of_notes (notes_boolValue env p) s
  | execute c kind w => exact .of_notes (StepKind.notes_task c.env kind) s

theorem afterAll_extends (s : Store) (requests : List Request) :
    (s.afterAll requests).Extends s := by
  induction requests generalizing s with
  | nil => exact Extends.refl s
  | cons request rest ih => exact (ih (s.after request)).trans (s.after_extends request)

end Store

def Step.requests (c : RunContext) (s : Step) (x : Store × World) : List Store.Request :=
  if s.kind.isUnsupported then []
  else [.execute c s.kind x.2, .record s.id (s.result c x)]

theorem Step.after_requests (c : RunContext) (s : Step) (x : Store × World) :
    (s.after c x).1 = x.1.afterAll (s.requests c x) := by
  cases hkind : s.kind.isUnsupported with
  | true =>
    rw [Step.after_unsupported c x hkind, Step.requests, if_pos hkind]
    rfl
  | false =>
    rw [Step.after, Step.requests, if_neg (by simp [hkind]), if_neg (by simp [hkind])]
    rfl

theorem before_requests (c : RunContext) (steps : List Step) (x : Store × World) {j k : Nat}
    (h : j ≤ k) :
    ∃ requests, (before c steps x k).1 = (before c steps x j).1.afterAll requests := by
  induction k with
  | zero =>
    obtain rfl : j = 0 := Nat.le_zero.1 h
    exact ⟨[], rfl⟩
  | succ k ih =>
    by_cases hlast : j = k + 1
    · subst hlast
      exact ⟨[], rfl⟩
    obtain ⟨requests, hrequests⟩ := ih (by omega)
    cases hs : steps[k]? with
    | none =>
      have hsame : before c steps x (k + 1) = before c steps x k := by
        rw [before, before, List.take_add_one, hs, Option.toList_none, List.append_nil]
      exact ⟨requests, by rw [hsame, hrequests]⟩
    | some s =>
      refine ⟨requests ++ s.requests c (before c steps x k), ?_⟩
      rw [before_succ hs, Step.after_requests, hrequests, Store.afterAll, Store.afterAll,
        Store.afterAll, List.foldl_append]

namespace Store

/-- Whatever is asked of a store, its inputs, its variables and its records stay, a second
result is dropped, and all that is new comes at the end. What a text resolved to it
resolves to at every later moment, and so it is from one step of a run to any later one. -/
theorem afterAll_keeps :
    (∀ (s : Store) (requests : List Request),
      let t := s.afterAll requests
      t.inputs = s.inputs ∧ t.vars = s.vars ∧
      s.outputs.toList <+: t.outputs.toList ∧
      (∀ id record, s.outputs.get? id = some record → t.outputs.get? id = some record) ∧
      (∀ id result, s.outputs.contains id = true → s.after (.record id result) = s) ∧
      s.diagnostics <+: t.diagnostics ∧
      ∀ env raw value, (Store.resolve env raw s).1 = some value →
        (Store.resolve env raw t).1 = some value) ∧
    ∀ (c : RunContext) (steps : List Step) (x : Store × World) (j k : Nat), j ≤ k →
      (∃ requests, (before c steps x k).1 = (before c steps x j).1.afterAll requests) ∧
      ∀ raw value, (Store.resolve c.env raw (before c steps x j).1).1 = some value →
        (Store.resolve c.env raw (before c steps x k).1).1 = some value := by
  constructor
  · intro s requests t
    have h : t.Extends s := s.afterAll_extends requests
    refine ⟨h.inputs, h.vars, h.outputs, fun id record => h.get?, ?_, h.diagnostics,
      fun env raw value => resolve_extends h⟩
    intro id result hid
    exact setOutput_of_contains hid _
  · intro c steps x j k hjk
    obtain ⟨requests, hrequests⟩ := before_requests c steps x hjk
    refine ⟨⟨requests, hrequests⟩, ?_⟩
    intro raw value
    rw [hrequests]
    exact resolve_extends (afterAll_extends _ requests)

/-- The record of the first result is found under the step after a second one. -/
theorem afterAll_keeps_first :
    let s := empty.after (.record "list" (.ok none))
    (Store.resolve (fun _ => none) "$step.list.success"
      (s.afterAll [.text (fun _ => none) "$var.org",
        .record "list" (.error (Cause.notLoaded : Error))])).1 = some "true" := by
  intro s
  obtain ⟨hkeeps, -⟩ := afterAll_keeps
  obtain ⟨-, -, -, -, -, -, hresolve⟩ := hkeeps s
    [.text (fun _ => none) "$var.org", .record "list" (.error (Cause.notLoaded : Error))]
  exact hresolve _ _ _ (by decide)

end Store
end OrgPipeline
