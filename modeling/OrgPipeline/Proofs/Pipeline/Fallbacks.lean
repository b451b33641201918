import OrgPipeline.Proofs.Pipeline.Outcome
import OrgPipeline.Proofs.Step.Calls

/-!
# The defaults that a run took

One after another, the calls that a run makes leave their diagnostics in the store, and
nothing else leaves any there but references to unknown name spaces. So the diagnostics
of an accessor's kind are those of its calls that fell back to the default, in their
order.
-/

set_option autoImplicit false

namespace OrgPipeline

/-- The calls that a run of the steps makes, each with the store as it is then: those of
every step that is carried out, up to the one that ends the run. -/
def visits (c : RunContext) : List Step → Store × World → List Visit
  | [], _ => []
  | s :: rest, x =>
    if s.kind.isUnsupported then visits c rest x
    else
      Reading.visits c.env s.kind.readings x.1 ++
        match s.fatal? (s.result c x) with
        | some _ => []
        | none => visits c rest (s.after c x)

theorem Step.after_diagnostics (c : RunContext) {s : Step} (x : Store × World)
    (h : s.kind.isUnsupported = false) :
    (s.after c x).1.diagnostics = x.1.diagnostics ++
      (Reading.visits c.env s.kind.readings x.1).flatMap (Visit.notes c.env) := by
  have hresolved : (s.kind.resolve c.env x.1).2 =
      x.1.noted ((Reading.visits c.env s.kind.readings x.1).flatMap (Visit.notes c.env)) := by
    rw [(Makes.resolve s.kind).store, Reading.foldl_after]
  have hafter : (s.after c x).1 = (s.kind.resolve c.env x.1).2.setOutput s.id
      (.ofResult (s.result c x)) := by
    rw [Step.after, if_neg (by simp [h])]
    rfl
  have hkept (store : Store) (id : String) (r : StepRecord) :
      (store.setOutput id r).diagnostics = store.diagnostics := by
    rw [Store.setOutput]
    split <;> rfl
  rw [hafter, hkept, hresolved]
  rfl

theorem runSteps_diagnostics (c : RunContext) (steps : List Step) (x : Store × World) :
    (runSteps c steps x.1 x.2).1.store.diagnostics =
      x.1.diagnostics ++ (visits c steps x).flatMap (Visit.notes c.env) := by
  induction steps generalizing x with
  | nil => exact (List.append_nil _).symm
  | cons s rest ih =>
    rw [visits]
    cases hkind : s.kind.isUnsupported with
    | true =>
      rw [runSteps_unsupported hkind, if_pos rfl]
      exact ih x
    | false =>
      rw [runSteps_supported hkind, if_neg Bool.false_ne_true, List.flatMap_append,
        ← List.append_assoc, ← s.after_diagnostics c x hkind]
      cases s.fatal? (s.result c x) with
      | some e => exact (List.append_nil _).symm
      | none => exact ih (s.after c x)

namespace Store

/-- So far no accessor has been called: no diagnostic but those of references to unknown
name spaces. -/
def Uncalled (s : Store) : Prop := ∀ d ∈ s.diagnostics, d.kind = .unknownNamespace

theorem Uncalled.noted {s : Store} (h : s.Uncalled) (p : Param) :
    (s.noted p.unknownNotes).Uncalled := by
  intro d hd
  rcases List.mem_append.1 hd with hd | hd
  · exact h d hd
  · unfold Param.unknownNotes at hd
    split at hd
    · rw [List.mem_singleton.1 hd]
    · cases hd

theorem Uncalled.scalarOf {s : Store} (h : s.Uncalled) (env : Environment) (p : Param) :
    (scalarOf env p s).2.Uncalled := by
  rw [scalarOf_eq]
  exact h.noted p

theorem Uncalled.setInput {s : Store} (h : s.Uncalled) (env : Environment)
    (input : InputDeclaration) (supplied : Option Json) :
    (setInput env input supplied s).2.Uncalled := by
  unfold Store.setInput
  rcases supplied with - | v
  · rcases input with ⟨id, - | p, description⟩
    · exact h
    · exact h.scalarOf env p
  · cases v with
    | str raw => exact h.scalarOf env raw
    | _ => exact h

theorem Uncalled.setVariables {s : Store} (h : s.Uncalled) (env : Environment)
    (vars : List VariableDeclaration) : (setVariables env vars s).2.Uncalled := by
  induction vars generalizing s with
  | nil => exact h
  | cons v rest ih => exact ih (h.scalarOf env v.value : (setVariable env v s).2.Uncalled)

end Store

namespace PipelineConfig

theorem uncalled_startStore (env : Environment) (config : PipelineConfig) (supplied : Table Json) :
    (config.startStore env supplied).Uncalled := by
  have hinputs (inputs : List InputDeclaration) (s : Store) (h : s.Uncalled) :
      (bindInputs env supplied inputs s).2.Uncalled := by
    induction inputs generalizing s with
    | nil => exact h
    | cons input rest ih => exact ih _ (h.setInput env input (supplied.get? input.id))
  have hempty : Store.empty.Uncalled := fun d hd => nomatch hd
  exact (hinputs config.inputs _ hempty).setVariables env config.vars

end PipelineConfig

namespace Engine

theorem run_diagnostics {e : Engine} {p : LoadedPipeline} (hp : e.pipeline = some p)
    (env : Environment) (tools : Tools) (w : World) :
    (e.run env tools w).1.engine.diagnostics =
      (p.config.startStore env e.inputs).diagnostics ++
        (visits (e.context env tools) p.config.steps (e.startOf p env w)).flatMap
          (Visit.notes env) := by
  rw [run_loaded hp env tools w rfl]
  exact runSteps_diagnostics (e.context env tools) p.config.steps (e.startOf p env w)

/-- Each accessor answers with what its parameter denotes, or with its default and the
diagnostics of one fallback. A run leaves exactly one diagnostic of an accessor's own kind
for each of its calls that fell back, in the order of the calls. -/
theorem run_fallbacks :
    (∀ (env : Environment) (s : Store) (raw : String),
      Store.Answered s (s.DenotesText env raw) "" raw .unresolved
        (Store.textValue env raw s)) ∧
    (∀ (env : Environment) (s : Store) (p : Param),
      Store.Answered s (s.DenotesNumber env p) (Decimal.ofNat 0) p .notANumber
        (Store.numberValue env p s)) ∧
    (∀ (env : Environment) (s : Store) (p : Param),
      Store.Answered s (s.DenotesBool env p) false p .notABoolean
        (Store.boolValue env p s)) ∧
    (∀ (env : Environment) (s : Store) (p : Param),
      Store.Answered s (fun value => ∃ x, value = some x ∧ s.DenotesNumber env p x)
        (some (Decimal.ofNat 0)) p .notANumber (Store.optionalNumber env (some p) s)) ∧
    (∀ (env : Environment) (kind : StepKind), Makes env (kind.resolve env) kind.readings) ∧
    ∀ (e : Engine) (p : LoadedPipeline) (env : Environment) (tools : Tools) (w : World)
      (kind : DiagnosticKind), e.pipeline = some p → kind ≠ .unknownNamespace →
      let calls := visits (e.context env tools) p.config.steps (e.startOf p env w)
      let diagnostics := (e.run env tools w).1.engine.diagnostics
      diagnostics.filter (·.kind = kind) =
          (calls.filter (·.Defaulted env kind)).map (·.reading.ownNote) ∧
        diagnostics.countP (·.kind = kind) = calls.countP (·.Defaulted env kind) := by
  refine ⟨fun env s raw => Store.textValue_answered env raw s,
    fun env s p => Store.numberValue_answered env p s,
    fun env s p => Store.boolValue_answered env p s,
    fun env s p => Store.optionalNumber_answered env p s, fun _ => Makes.resolve, ?_⟩
  intro e p env tools w kind hp hkind calls diagnostics
  have hstart : (p.config.startStore env e.inputs).diagnostics.filter (·.kind = kind) = [] := by
    rw [List.filter_eq_nil_iff]
    intro d hd
    have hunknown := PipelineConfig.uncalled_startStore env p.config e.inputs d hd
    simpa [hunknown] using hkind.symm
  have hfilter : diagnostics.filter (·.kind = kind) =
      (calls.filter (·.Defaulted env kind)).map (·.reading.ownNote) := by
    have hall : diagnostics = _ := run_diagnostics hp env tools w
    rw [hall, List.filter_append, hstart, List.nil_append, Visit.filter_flatMap_notes env hkind]
  refine ⟨hfilter, ?_⟩
  rw [List.countP_eq_length_filter, List.countP_eq_length_filter, hfilter, List.length_map]

namespace Guessed

def pipeline : LoadedPipeline where
  path := "run.json"
  config := ⟨none, [], [], [⟨"show", true, .displayOrg ⟨"$secret.org"⟩⟩,
    ⟨"push", true, .pushSource ⟨"ci", some (.text "perhaps")⟩⟩]⟩
  index := ⟨[("show", 0), ("push", 1)]⟩

def engine : Engine := (Engine.new "").install pipeline

end Guessed

/-- The unknown name space is told as well, but apart from the fallback. -/
theorem run_fallbacks_guessed :
    (Guessed.engine.run Stopped.env Stopped.tools Stopped.world).1.engine.diagnostics.filter
        (·.kind = .unresolved) = [⟨"$secret.org", .unresolved⟩] ∧
      (Guessed.engine.run Stopped.env Stopped.tools Stopped.world).1.engine.diagnostics.countP
        (·.kind = .notABoolean) = 1 := by
  obtain ⟨-, -, -, -, -, hrun⟩ := run_fallbacks
  have hcalls (kind : DiagnosticKind) := hrun Guessed.engine Guessed.pipeline
    Stopped.env Stopped.tools Stopped.world kind rfl
  constructor
  · rw [(hcalls .unresolved (by decide)).1]
    decide +kernel
  · rw [(hcalls .notABoolean (by decide)).2]
    decide +kernel

end Engine
end OrgPipeline
