import OrgPipeline.Proofs.Engine.History
import OrgPipeline.Proofs.Engine.Causality

/-!
# Runs do not see what was before them

Of all that was done with an engine a run depends on the pipeline and on what is
supplied for the inputs it declares. The records that a reference to a step finds
are those of the same run.
-/

set_option autoImplicit false

namespace OrgPipeline.Engine

/-- A value that a path leads to in the record of a step, one that the run carried
out ahead of a place. -/
def FoundAhead (c : RunContext) (steps : List Step) (x : Store × World) (n : Nat) (id : String)
    (path : List String) (v : String) : Prop :=
  ∃ j < n, ∃ s : Step, steps[j]? = some s ∧ s.kind.isUnsupported = false ∧ s.id = id ∧
    ((StepRecord.ofResult (s.result c (before c steps x j))).toJson.descend path).bind
      Json.scalar? = some v

section

variable {R : World → World → Prop} {e e₁ e₂ : Engine} {p : LoadedPipeline} {env : Environment}
  {tools tools₁ tools₂ : Tools} {w w₁ w₂ : World}

theorem sameOutcome_of_pipeline (hp₁ : e₁.pipeline = some p) (hp₂ : e₂.pipeline = some p)
    (hdirectory : e₁.directory = e₂.directory)
    (hsupplied : ∀ input ∈ p.config.inputs, e₁.inputs.get? input.id = e₂.inputs.get? input.id)
    (htools : Tools.Alike R tools₁ tools₂) (hw : R w₁ w₂) :
    SameOutcome R (e₁.run env tools₁ w₁) (e₂.run env tools₂ w₂) := by
  have hc : (e₁.context env tools₁).Alike R (e₂.context env tools₂) := ⟨rfl, hdirectory, htools⟩
  have hx : Together R (e₁.startOf p env w₁) (e₂.startOf p env w₂) :=
    startOf_together rfl rfl hsupplied hw
  obtain ⟨htrace, hworld⟩ := runSteps_together hc p.config.steps hx
  exact sameOutcome_of_trace htools.likeness hp₁ hp₂ htrace hworld fun _ => rfl

/-- Engines without a pipeline are as they were made, so that a run that is
refused shows the same of both. -/
theorem sameOutcome_of_none (h₁ : Settled e₁) (h₂ : Settled e₂) (hp₁ : e₁.pipeline = none)
    (hp₂ : e₂.pipeline = none) (hR : Likeness R) (hw : R w₁ w₂) :
    SameOutcome R (e₁.run env tools₁ w₁) (e₂.run env tools₂ w₂) := by
  have hidle₁ := h₁.idle.2 hp₁
  have hidle₂ := h₂.idle.2 hp₂
  obtain ⟨houtputs₁, hdiagnostics₁⟩ := h₁.fresh (Or.inl hidle₁)
  obtain ⟨houtputs₂, hdiagnostics₂⟩ := h₂.fresh (Or.inl hidle₂)
  rw [run_none hp₁, run_none hp₂]
  exact ⟨rfl, rfl, hidle₁.trans hidle₂.symm, houtputs₁.trans houtputs₂.symm,
    hdiagnostics₁.trans hdiagnostics₂.symm, hR.starts hw, hw⟩

theorem lookup_step (hids : (p.config.steps.map (·.id)).Nodup) {n : Nat} {id : String}
    {path : List String} {v : String}
    (h : (before (e.context env tools) p.config.steps (e.startOf p env w) n).1.lookup env
      (.step id path) = some v) :
    FoundAhead (e.context env tools) p.config.steps (e.startOf p env w) n id path v := by
  cases path with
  | nil => cases h
  | cons segment others =>
    obtain ⟨record, hrecord, hv⟩ := Option.bind_eq_some_iff.1 h
    have hmem := Table.mem_of_get? hrecord
    rw [(outputs_before hids env tools w n).1] at hmem
    obtain ⟨j, s, hs, hkind, hid, rfl⟩ := mem_records hmem
    obtain ⟨hj, hstep⟩ := getElem?_take_some.1 hs
    rw [before_take (Nat.le_of_lt hj)] at hv
    exact ⟨j, hj, s, hstep, hkind, hid, hv⟩

end

/-- Two engines with any history each, the same pipeline and the same values for
the inputs it declares: their next runs are the same. What a reference finds is
of this run. -/
theorem run_unaffected (R : World → World → Prop) (directory : String)
    (calls₁ calls₂ : List (Call × World)) (env : Environment) (tools₁ tools₂ : Tools)
    (w₁ w₂ : World)
    (hpipeline : ((new directory).after calls₁).pipeline = ((new directory).after calls₂).pipeline)
    (hsupplied : ∀ p, ((new directory).after calls₁).pipeline = some p →
      ∀ input ∈ p.config.inputs, ((new directory).after calls₁).inputs.get? input.id =
        ((new directory).after calls₂).inputs.get? input.id)
    (htools : Tools.Alike R tools₁ tools₂) (hw : R w₁ w₂) :
    let e := (new directory).after calls₁
    SameOutcome R (e.run env tools₁ w₁) (((new directory).after calls₂).run env tools₂ w₂) ∧
      ∀ p, e.pipeline = some p →
        let c := e.context env tools₁
        let x := e.startOf p env w₁
        ∀ n, (before c p.config.steps x n).1.outputs.toList =
            records c (p.config.steps.take n) x ∧
          ∀ id path v, (before c p.config.steps x n).1.lookup env (.step id path) = some v →
            FoundAhead c p.config.steps x n id path v := by
  intro e
  have h₁ : Settled e := (settled_new directory).after calls₁
  have h₂ : Settled ((new directory).after calls₂) := (settled_new directory).after calls₂
  have hdirectory : e.directory = ((new directory).after calls₂).directory := by
    rw [after_directory, after_directory]
  refine ⟨?_, ?_⟩
  · cases hp : e.pipeline with
    | none => exact sameOutcome_of_none h₁ h₂ hp (hpipeline.symm.trans hp) htools.likeness hw
    | some p =>
      exact sameOutcome_of_pipeline hp (hpipeline.symm.trans hp) hdirectory (hsupplied p hp)
        htools hw
  · intro p hp c x n
    have hids := h₁.distinct p hp
    exact ⟨(outputs_before hids env tools₁ w₁ n).1, fun id path v => lookup_step hids⟩

namespace Rerun

def text : String := "\x7b\"steps\":[\x7b\"id\":\"a\",\"type\":\"sfdx.auth.list\"\x7d]\x7d"

def world : World :=
  { Stopped.world with files := ⟨[(["run.json"], .file (Octets.ofText text))]⟩ }

def load : Call × World := (.load "run.json" false, world)

def failed : Engine := (new "").after [load, (.run Stopped.env Stopped.tools, world)]

def supplied : Engine :=
  (new "").after [load, (.setInputs ⟨[("undeclared", .str "x")]⟩, world)]

end Rerun

/-- The run after a failed one is that of an engine which has just loaded. -/
theorem run_unaffected_rerun :
    Rerun.failed.state = .failed ∧ Rerun.supplied.state = .loaded ∧
      SameOutcome Eq (Rerun.failed.run Stopped.env Stopped.tools Rerun.world)
        (Rerun.supplied.run Stopped.env Stopped.tools Rerun.world) := by
  have hfacts : Rerun.failed.state = .failed ∧ Rerun.supplied.state = .loaded ∧
      Rerun.failed.pipeline.map (·.config.inputs.length) = some 0 := by decide +kernel
  obtain ⟨hfailed, hloaded, hdeclared⟩ := hfacts
  have hpipeline : Rerun.failed.pipeline = Rerun.supplied.pipeline := by
    simp only [Rerun.failed, Rerun.supplied, after_cons, after_nil, answer_pipeline,
      Call.installed, Option.none_or]
  have hsupplied (p : LoadedPipeline) (hp : Rerun.failed.pipeline = some p) :
      ∀ input ∈ p.config.inputs,
        Rerun.failed.inputs.get? input.id = Rerun.supplied.inputs.get? input.id := by
    rw [hp, Option.map_some, Option.some.injEq, List.length_eq_zero_iff] at hdeclared
    rw [hdeclared]
    exact fun _ h => absurd h List.not_mem_nil
  exact ⟨hfailed, hloaded, (run_unaffected Eq "" _ _ Stopped.env Stopped.tools Stopped.tools
    Rerun.world Rerun.world hpipeline hsupplied (Tools.alike_self _) rfl).1⟩

end OrgPipeline.Engine
