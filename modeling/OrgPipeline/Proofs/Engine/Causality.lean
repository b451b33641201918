import OrgPipeline.Proofs.Pipeline.Agreement

/-!
# What comes later does not matter

Two pipelines that begin with the same steps begin with the same run. The steps
that follow make a difference only after them, and none at all if the run has
ended by then.
-/

set_option autoImplicit false

namespace OrgPipeline.Engine

/-- Two runs, with the worlds they end in, that nothing they did or left tells
apart. -/
structure SameOutcome (R : World → World → Prop) (a b : Outcome × World) : Prop where
  events : a.1.events = b.1.events
  result : a.1.result = b.1.result
  state : a.1.engine.state = b.1.engine.state
  outputs : a.1.engine.outputs = b.1.engine.outputs
  diagnostics : a.1.engine.diagnostics = b.1.engine.diagnostics
  starts : a.2.starts = b.2.starts
  world : R a.2 b.2

/-- The run comes past a place. Its events, records and diagnostics begin with
those of the steps ahead of the place, and the world it ends in is what the
others have made of theirs. -/
structure GoesThrough (c : RunContext) (steps : List Step) (x : Store × World) (k : Nat)
    (r : Outcome × World) : Prop where
  events : (steps.take k).flatMap Step.finished <+: r.1.events
  outputs : (before c steps x k).1.outputs.toList <+: r.1.engine.outputs.toList
  diagnostics : (before c steps x k).1.diagnostics <+: r.1.engine.diagnostics
  world : r.2 = (following c steps x k).2

def trace (e : Engine) (p : LoadedPipeline) (env : Environment) (tools : Tools) (w : World) :
    RunTrace × World :=
  runSteps (e.context env tools) p.config.steps (e.startOf p env w).1 (e.startOf p env w).2

section

variable {R : World → World → Prop} {e e₁ e₂ : Engine} {p p₁ p₂ : LoadedPipeline}
  {env : Environment} {tools tools₁ tools₂ : Tools} {w w₁ w₂ : World} {k : Nat}

theorem run_trace (hp : e.pipeline = some p) :
    e.run env tools w =
      (⟨e.start.finish (e.trace p env tools w).1, (e.trace p env tools w).1.events,
        (e.start.finish (e.trace p env tools w).1).report p (e.trace p env tools w).1⟩,
        (e.trace p env tools w).2) :=
  run_loaded hp env tools w rfl

theorem run_goesThrough (hp : e.pipeline = some p)
    (h : Unbroken (e.context env tools) (p.config.steps.take k) (e.startOf p env w)) :
    GoesThrough (e.context env tools) p.config.steps (e.startOf p env w) k
      (e.run env tools w) := by
  have hkept := runSteps_extends (e.context env tools) (p.config.steps.drop k)
    (before (e.context env tools) p.config.steps (e.startOf p env w) k)
  obtain ⟨hevents, hstore, -, hworld⟩ := runSteps_following h
  change (following (e.context env tools) p.config.steps _ k).1.store.Extends _ at hkept
  rw [← hstore] at hkept
  rw [run_trace hp]
  exact ⟨⟨_, hevents.symm⟩, hkept.outputs, hkept.diagnostics, hworld⟩

theorem startOf_together (hinputs : p₁.config.inputs = p₂.config.inputs)
    (hvars : p₁.config.vars = p₂.config.vars)
    (hsupplied : ∀ input ∈ p₁.config.inputs, e₁.inputs.get? input.id = e₂.inputs.get? input.id)
    (hw : R w₁ w₂) : Together R (e₁.startOf p₁ env w₁) (e₂.startOf p₂ env w₂) :=
  ⟨PipelineConfig.startStore_congr env hinputs hvars hsupplied, hw⟩

/-- Two runs that leave the same trace differ at most in the number of steps that
the reports give. -/
theorem sameOutcome_of_trace (hR : Likeness R) (hp₁ : e₁.pipeline = some p₁)
    (hp₂ : e₂.pipeline = some p₂)
    (htrace : (e₁.trace p₁ env tools₁ w₁).1 = (e₂.trace p₂ env tools₂ w₂).1)
    (hw : R (e₁.trace p₁ env tools₁ w₁).2 (e₂.trace p₂ env tools₂ w₂).2)
    (hreport : (e₁.trace p₁ env tools₁ w₁).1.error = none →
      p₁.config.steps.length = p₂.config.steps.length) :
    SameOutcome R (e₁.run env tools₁ w₁) (e₂.run env tools₂ w₂) := by
  rw [run_trace hp₁, run_trace hp₂, ← htrace]
  refine ⟨rfl, ?_, rfl, rfl, rfl, hR.starts hw, hw⟩
  cases herror : (e₁.trace p₁ env tools₁ w₁).1.error with
  | none => simp only [report, herror, finish, hreport herror]
  | some error => simp only [report, herror]

/-- Of two pipelines with the same inputs, variables and first steps, the runs
are the same as far as these steps go. If one of them ends the run, it ends both,
and nothing tells the two runs apart. -/
theorem run_causal (R : World → World → Prop) (e₁ e₂ : Engine) (p₁ p₂ : LoadedPipeline)
    (env : Environment) (tools₁ tools₂ : Tools) (w₁ w₂ : World) (k : Nat)
    (hp₁ : e₁.pipeline = some p₁) (hp₂ : e₂.pipeline = some p₂)
    (hdirectory : e₁.directory = e₂.directory)
    (hinputs : p₁.config.inputs = p₂.config.inputs) (hvars : p₁.config.vars = p₂.config.vars)
    (hsupplied : ∀ input ∈ p₁.config.inputs, e₁.inputs.get? input.id = e₂.inputs.get? input.id)
    (hsteps : p₁.config.steps.take k = p₂.config.steps.take k)
    (htools : Tools.Alike R tools₁ tools₂) (hw : R w₁ w₂) :
    let c₁ := e₁.context env tools₁
    let c₂ := e₂.context env tools₂
    let x₁ := e₁.startOf p₁ env w₁
    let x₂ := e₂.startOf p₂ env w₂
    let steps := p₁.config.steps.take k
    (Unbroken c₁ steps x₁ ∨ ∃ j < k, ∃ s error, FirstAbort c₁ p₁.config.steps x₁ j s error) ∧
      (Unbroken c₁ steps x₁ →
        (before c₁ p₁.config.steps x₁ k).1 = (before c₂ p₂.config.steps x₂ k).1 ∧
          (before c₁ p₁.config.steps x₁ k).2.starts = (before c₂ p₂.config.steps x₂ k).2.starts ∧
          R (before c₁ p₁.config.steps x₁ k).2 (before c₂ p₂.config.steps x₂ k).2 ∧
          GoesThrough c₁ p₁.config.steps x₁ k (e₁.run env tools₁ w₁) ∧
          GoesThrough c₂ p₂.config.steps x₂ k (e₂.run env tools₂ w₂)) ∧
      ∀ j < k, ∀ s error, FirstAbort c₁ p₁.config.steps x₁ j s error →
        (e₁.run env tools₁ w₁).1.result = .error error ∧
          SameOutcome R (e₁.run env tools₁ w₁) (e₂.run env tools₂ w₂) := by
  intro c₁ c₂ x₁ x₂ steps
  have hc : c₁.Alike R c₂ := ⟨rfl, hdirectory, htools⟩
  have hx : Together R x₁ x₂ := startOf_together hinputs hvars hsupplied hw
  refine ⟨?_, ?_, ?_⟩
  · rcases unbroken_or_firstAbort c₁ steps x₁ with h | ⟨j, s, error, h⟩
    · exact Or.inl h
    · exact Or.inr ⟨j, h.of_take.1, s, error, h.of_take.2⟩
  · intro h
    have hplace : Together R (before c₁ p₁.config.steps x₁ k) (before c₂ p₂.config.steps x₂ k) :=
      before_together_take hc hsteps hx
    have h₂ : Unbroken c₂ (p₂.config.steps.take k) x₂ := hsteps ▸ (unbroken_together hc hx).1 h
    exact ⟨hplace.store, htools.likeness.starts hplace.world, hplace.world,
      run_goesThrough hp₁ h, run_goesThrough hp₂ h₂⟩
  · intro j hj s error h
    -- both traces are those of the first steps alone
    have h₁ := h.take hj
    have h₂ : FirstAbort c₂ (p₂.config.steps.take k) x₂ j s error :=
      hsteps ▸ firstAbort_together hc hx h₁
    have htrace₁ : e₁.trace p₁ env tools₁ w₁ = runSteps c₁ steps x₁.1 x₁.2 := runSteps_take h₁
    have htrace₂ : e₂.trace p₂ env tools₂ w₂ = runSteps c₂ steps x₂.1 x₂.2 := by
      change _ = runSteps c₂ (p₁.config.steps.take k) x₂.1 x₂.2
      rw [hsteps]
      exact runSteps_take h₂
    have herror : (e₁.trace p₁ env tools₁ w₁).1.error = some error :=
      (runSteps_firstAbort h).2.2.1
    obtain ⟨hsame, hworld⟩ := runSteps_together hc steps hx
    refine ⟨?_, sameOutcome_of_trace htools.likeness hp₁ hp₂ ?_ ?_ ?_⟩
    · rw [run_trace hp₁]
      simp only [report, herror]
    · rw [htrace₁, htrace₂, hsame]
    · rw [htrace₁, htrace₂]
      exact hworld
    · intro hnone
      cases herror.symm.trans hnone

end

namespace Branching

def steps (last : StepKind) : List Step :=
  [⟨"a", true, .authList⟩, ⟨"b", false, .authList⟩, ⟨"c", false, last⟩]

def pipeline (last : StepKind) : LoadedPipeline :=
  ⟨"run.json", ⟨none, [], [], steps last⟩, ⟨[("a", 0), ("b", 1), ("c", 2)]⟩⟩

def run (last : StepKind) : Outcome × World :=
  (Stopped.engine (pipeline last)).run Stopped.env Stopped.tools Stopped.world

end Branching

/-- Both runs come past the first step and end at the second. -/
theorem run_causal_branching :
    let p := Branching.pipeline (.unsupported "x")
    let q := Branching.pipeline .authList
    GoesThrough (Stopped.context p) p.config.steps (Stopped.start p) 1
        (Branching.run (.unsupported "x")) ∧
      GoesThrough (Stopped.context q) q.config.steps (Stopped.start q) 1
        (Branching.run .authList) ∧
      SameOutcome Eq (Branching.run (.unsupported "x")) (Branching.run .authList) := by
  intro p q
  have hfacts : Stopped.aborts? p 0 = some ("a", false) ∧
      Stopped.aborts? p 1 = some ("b", true) := by decide +kernel
  obtain ⟨s, error, hs, -, haborts⟩ := Stopped.abortsWith hfacts.2
  have hfirst : FirstAbort (Stopped.context p) p.config.steps (Stopped.start p) 1 s error := by
    refine ⟨hs, haborts, ?_⟩
    intro j hj t ht
    obtain rfl : j = 0 := by omega
    exact Stopped.not_abortsWith hfacts.1 t ht
  have hcausal (k : Nat) (hsteps : p.config.steps.take k = q.config.steps.take k) :=
    run_causal Eq (Stopped.engine p) (Stopped.engine q) p q Stopped.env Stopped.tools
      Stopped.tools Stopped.world Stopped.world k rfl rfl rfl rfl rfl
      (fun _ h => absurd h List.not_mem_nil) hsteps (Tools.alike_self _) rfl
  obtain ⟨-, -, -, hp, hq⟩ := (hcausal 1 rfl).2.1 hfirst.unbroken
  exact ⟨hp, hq, ((hcausal 2 rfl).2.2 1 (by decide) s error hfirst).2⟩

end OrgPipeline.Engine
