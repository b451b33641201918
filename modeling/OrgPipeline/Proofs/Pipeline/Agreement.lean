import OrgPipeline.Proofs.Pipeline.Prefix
import OrgPipeline.Proofs.Step.Likeness

/-!
# Runs side by side

Two runs of the same steps, over the same store and with tools that cannot be
told apart, stay together: no step can tell which of the two it is in.
-/

set_option autoImplicit false

namespace OrgPipeline
open Sequence

structure RunContext.Alike (R : World → World → Prop) (c d : RunContext) : Prop where
  env : c.env = d.env
  directory : c.directory = d.directory
  tools : Tools.Alike R c.tools d.tools

structure Together (R : World → World → Prop) (x y : Store × World) : Prop where
  store : x.1 = y.1
  world : R x.2 y.2

section

variable {R : World → World → Prop} {c d : RunContext} {x y : Store × World} {s : Step}
  {steps : List Step} {k : Nat} {e : Error}

/-- The step does the same in both runs: its parameters leave the same store, and
what comes of them is carried out alike. Then it cannot tell the two runs apart. -/
theorem execute_together {kind : StepKind} (h : Together R x y)
    (hstore : (kind.resolve c.env y.1).2 = (kind.resolve d.env y.1).2)
    (hperform : Agree R ((kind.resolve c.env y.1).1.perform c.tools c.directory)
      ((kind.resolve d.env y.1).1.perform d.tools d.directory)) :
    (kind.execute c.env c.tools c.directory x.1 x.2).1 =
        (kind.execute d.env d.tools d.directory y.1 y.2).1 ∧
      R (kind.execute c.env c.tools c.directory x.1 x.2).2
        (kind.execute d.env d.tools d.directory y.1 y.2).2 := by
  obtain ⟨hresult, hworld⟩ := hperform x.2 y.2 h.world
  unfold StepKind.execute
  rw [h.store]
  exact ⟨Prod.ext hresult hstore, hworld⟩

/-- Wherever the two runs stand together, the step ends the same in both, and they
stand together after it. -/
def Step.Matches (R : World → World → Prop) (c d : RunContext) (s : Step) : Prop :=
  ∀ x y, Together R x y → s.result c x = s.result d y ∧ Together R (s.after c x) (s.after d y)

theorem Step.matches_of_agree {s : Step}
    (hstore : ∀ store, (s.kind.resolve c.env store).2 = (s.kind.resolve d.env store).2)
    (hperform : ∀ store, Agree R ((s.kind.resolve c.env store).1.perform c.tools c.directory)
      ((s.kind.resolve d.env store).1.perform d.tools d.directory)) : s.Matches R c d := by
  intro x y h
  obtain ⟨hboth, hworld⟩ := execute_together h (hstore y.1) (hperform y.1)
  refine ⟨congrArg Prod.fst hboth, ?_⟩
  cases hkind : s.kind.isUnsupported with
  | true => rwa [Step.after_unsupported c x hkind, Step.after_unsupported d y hkind]
  | false =>
    rw [Step.after, Step.after, if_neg (by simp [hkind]), if_neg (by simp [hkind])]
    exact ⟨congrArg (fun r => r.2.setOutput s.id (.ofResult r.1)) hboth, hworld⟩

/-- Resolving parameters sees the environment and the store only; the task that
comes of it sees the directory, the tools and the world. -/
theorem RunContext.Alike.matches (hc : c.Alike R d) (s : Step) : s.Matches R c d := by
  apply Step.matches_of_agree
  · intro store
    rw [hc.env]
  · intro store
    rw [hc.env, hc.directory]
    exact agree_perform hc.tools.matching _ _

theorem Step.abortsWith_together (hc : c.Alike R d) (h : Together R x y) :
    s.AbortsWith c x e ↔ s.AbortsWith d y e := by
  unfold Step.AbortsWith
  rw [(hc.matches s x y h).1]

theorem before_together (hc : c.Alike R d) (steps : List Step) (h : Together R x y) (k : Nat) :
    Together R (before c steps x k) (before d steps y k) := by
  induction k generalizing steps x y with
  | zero => exact h
  | succ k ih =>
    cases steps with
    | nil => exact h
    | cons s rest =>
      rw [before_cons_succ, before_cons_succ]
      exact ih rest (hc.matches s x y h).2

theorem before_together_take (hc : c.Alike R d) {steps steps' : List Step}
    (hsteps : steps.take k = steps'.take k) (h : Together R x y) :
    Together R (before c steps x k) (before d steps' y k) := by
  have hfirst := before_together hc (steps.take k) h k
  rwa [before_take (Nat.le_refl k), hsteps, before_take (Nat.le_refl k)] at hfirst

theorem unbroken_together (hc : c.Alike R d) (h : Together R x y) :
    Unbroken c steps x ↔ Unbroken d steps y := by
  have hplace (j : Nat) (s : Step) (e : Error) :
      s.AbortsWith c (before c steps x j) e ↔ s.AbortsWith d (before d steps y j) e :=
    Step.abortsWith_together hc (before_together hc steps h j)
  unfold Unbroken
  simp only [hplace]

theorem firstAbort_together (hc : c.Alike R d) (h : Together R x y)
    (ha : FirstAbort c steps x k s e) : FirstAbort d steps y k s e where
  step := ha.step
  aborts := (Step.abortsWith_together hc (before_together hc steps h k)).1 ha.aborts
  first j hj t ht e' :=
    mt (Step.abortsWith_together hc (before_together hc steps h j)).2 (ha.first j hj t ht e')

theorem runSteps_matching (hsteps : ∀ s ∈ steps, s.Matches R c d) (h : Together R x y) :
    (runSteps c steps x.1 x.2).1 = (runSteps d steps y.1 y.2).1 ∧
      R (runSteps c steps x.1 x.2).2 (runSteps d steps y.1 y.2).2 := by
  induction steps generalizing x y with
  | nil => exact ⟨congrArg RunTrace.done h.store, h.world⟩
  | cons s rest ih =>
    rw [List.forall_mem_cons] at hsteps
    obtain ⟨hresult, hafter⟩ := hsteps.1 x y h
    obtain ⟨htrace, hworld⟩ := ih hsteps.2 hafter
    cases hkind : s.kind.isUnsupported with
    | true =>
      rw [Step.after_unsupported c x hkind, Step.after_unsupported d y hkind] at htrace hworld
      rw [runSteps_unsupported hkind, runSteps_unsupported hkind, htrace]
      exact ⟨rfl, hworld⟩
    | false =>
      rw [runSteps_supported hkind, runSteps_supported hkind, hresult]
      cases s.fatal? (s.result d y) with
      | some e => exact ⟨congrArg (RunTrace.aborted s.id · e) hafter.store, hafter.world⟩
      | none => exact ⟨congrArg (RunTrace.afterStep s.id) htrace, hworld⟩

theorem runSteps_together (hc : c.Alike R d) (steps : List Step) (h : Together R x y) :
    (runSteps c steps x.1 x.2).1 = (runSteps d steps y.1 y.2).1 ∧
      R (runSteps c steps x.1 x.2).2 (runSteps d steps y.1 y.2).2 :=
  runSteps_matching (fun s _ => hc.matches s) h

end

namespace PipelineConfig

theorem bindInputs_congr (env : Environment) {supplied supplied' : Table Json}
    {inputs : List InputDeclaration}
    (h : ∀ input ∈ inputs, supplied.get? input.id = supplied'.get? input.id) :
    bindInputs env supplied inputs = bindInputs env supplied' inputs := by
  induction inputs with
  | nil => rfl
  | cons input rest ih =>
    rw [List.forall_mem_cons] at h
    rw [bindInputs, bindInputs, h.1, ih h.2]

theorem startStore_congr (env : Environment) {config config' : PipelineConfig}
    {supplied supplied' : Table Json} (hinputs : config.inputs = config'.inputs)
    (hvars : config.vars = config'.vars)
    (h : ∀ input ∈ config.inputs, supplied.get? input.id = supplied'.get? input.id) :
    config.startStore env supplied = config'.startStore env supplied' := by
  rw [startStore, startStore, bind, bind, bindInputs_congr env h, hinputs, hvars]

end PipelineConfig
end OrgPipeline
