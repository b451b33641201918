import OrgPipeline.Proofs.Engine.Report
import OrgPipeline.Proofs.Engine.Independence

/-!
# Passing steps over changes nothing else

A pipeline with steps that are not supported does what it does without them. The
two runs cannot be told apart by the programs started, the records or the way
they end; only the events and the report say that steps were skipped.
-/

set_option autoImplicit false

namespace OrgPipeline

def LoadedPipeline.withoutUnsupported (p : LoadedPipeline) : LoadedPipeline where
  path := p.path
  config := { p.config with steps := carriedOut p.config.steps }
  index := StepIndex.ofSteps (carriedOut p.config.steps)

def RunReport.withPassedOver (r : RunReport) (steps : List Step) : RunReport :=
  { r with skippedSteps := (passedOver steps).map (·.id), totalSteps := steps.length }

namespace Engine

structure PassesOver (R : World → World → Prop) (steps : List Step) (full short : Outcome × World) :
    Prop where
  starts : full.2.starts = short.2.starts
  world : R full.2 short.2
  outputs : full.1.engine.outputs = short.1.engine.outputs
  diagnostics : full.1.engine.diagnostics = short.1.engine.diagnostics
  state : full.1.engine.state = short.1.engine.state
  events : full.1.events = withPassedOver steps short.1.events
  result : full.1.result = short.1.result.map (·.withPassedOver steps)
  /-- The shorter run has nothing to skip. -/
  unskipped : ∀ report, short.1.result = .ok report →
    report.skippedSteps = [] ∧ report.totalSteps = (carriedOut steps).length

section
variable {R : World → World → Prop} {e : Engine} {p : LoadedPipeline} {env : Environment}
  {tools : Tools} {w : World}

def shortened (e : Engine) (p : LoadedPipeline) : Engine :=
  { e with pipeline := some p.withoutUnsupported }

theorem finish_congr (e e' : Engine) {t t' : RunTrace} (hstore : t.store = t'.store)
    (herror : t.error = t'.error) :
    (e.finish t).outputs = (e'.finish t').outputs ∧
      (e.finish t).diagnostics = (e'.finish t').diagnostics ∧
      (e.finish t).state = (e'.finish t').state := by
  rw [finish, finish, hstore, herror]
  exact ⟨rfl, rfl, rfl⟩

theorem report_withPassedOver {e' : Engine} {q : LoadedPipeline} {t t' : RunTrace}
    (hstore : t.store = t'.store) (herror : t.error = t'.error)
    (hskipped : t.error = none → t.skipped = (passedOver p.config.steps).map (·.id)) :
    (e.finish t).report p t =
      ((e'.finish t').report q t').map (·.withPassedOver p.config.steps) := by
  obtain ⟨houtputs, hdiagnostics, hstate⟩ := finish_congr e e' hstore herror
  rw [report, report, ← herror, houtputs, hdiagnostics, hstate]
  cases hended : t.error with
  | some error => rfl
  | none =>
    rw [hskipped hended]
    rfl

theorem report_shortened {report : RunReport}
    (h : ((e.shortened p).run env tools w).1.result = .ok report) :
    report.skippedSteps = [] ∧ report.totalSteps = (carriedOut p.config.steps).length := by
  have hshort : (e.shortened p).pipeline = some p.withoutUnsupported := rfl
  obtain ⟨-, -, -, hskipped, htotal⟩ := report_unbroken hshort h
  refine ⟨?_, htotal⟩
  rw [hskipped]
  exact congrArg (List.map _) (passedOver_carriedOut p.config.steps)

theorem passesOver_shortened (hp : e.pipeline = some p) :
    PassesOver Eq p.config.steps (e.run env tools w) ((e.shortened p).run env tools w) := by
  have hshort : (e.shortened p).pipeline = some p.withoutUnsupported := rfl
  -- the trace of the shorter pipeline is that of the supported steps
  obtain ⟨hevents, hstore, herror, hworld⟩ :=
    runSteps_carriedOut (e.context env tools) p.config.steps (e.startOf p env w)
  have hskipped : (e.trace p env tools w).1.error = none →
      (e.trace p env tools w).1.skipped = (passedOver p.config.steps).map (·.id) :=
    fun hnone => runSteps_skipped (unbroken_of_error_none hnone)
  obtain ⟨houtputs, hdiagnostics, hstate⟩ :=
    finish_congr e.start (e.shortened p).start hstore herror
  refine ⟨?_, ?_, ?_, ?_, ?_, ?_, ?_, fun report => report_shortened⟩
  all_goals rw [run_trace hp, run_trace hshort]
  · exact congrArg World.starts hworld
  · exact hworld
  · exact houtputs
  · exact hdiagnostics
  · exact hstate
  · exact hevents
  · exact report_withPassedOver hstore herror hskipped

theorem PassesOver.trans {full short other : Outcome × World} {steps : List Step}
    (h : PassesOver Eq steps full short) (hsame : SameOutcome R short other) :
    PassesOver R steps full other where
  starts := h.starts.trans hsame.starts
  world := h.world ▸ hsame.world
  outputs := h.outputs.trans hsame.outputs
  diagnostics := h.diagnostics.trans hsame.diagnostics
  state := h.state.trans hsame.state
  events := hsame.events ▸ h.events
  result := hsame.result ▸ h.result
  unskipped report hreport := h.unskipped report (hsame.result.trans hreport)

end

/-- A pipeline that was loaded with steps that are not supported, and the same
pipeline without them, which has an index too: their runs differ in the events
of the steps passed over, and in what the report says of them. -/
theorem run_passesOver (R : World → World → Prop) (e₁ e₂ : Engine) (p : LoadedPipeline)
    (env : Environment) (tools₁ tools₂ : Tools) (w₁ w₂ : World) (path : String) (w₀ w₀' : World)
    (hload : LoadedPipeline.load path true w₀ = (.ok p, w₀'))
    (hp₁ : e₁.pipeline = some p) (hp₂ : e₂.pipeline = some p.withoutUnsupported)
    (hdirectory : e₁.directory = e₂.directory)
    (hsupplied : ∀ input ∈ p.config.inputs, e₁.inputs.get? input.id = e₂.inputs.get? input.id)
    (htools : Tools.Alike R tools₁ tools₂) (hw : R w₁ w₂) :
    StepIndex.build p.withoutUnsupported.config.steps = .ok p.withoutUnsupported.index ∧
      PassesOver R p.config.steps (e₁.run env tools₁ w₁) (e₂.run env tools₂ w₂) := by
  have hids : ((carriedOut p.config.steps).map (·.id)).Nodup :=
    (LoadedPipeline.load_ok hload).sublist (List.filter_sublist.map _)
  refine ⟨StepIndex.build_of_nodup hids, ?_⟩
  have hsame : SameOutcome R ((e₁.shortened p).run env tools₁ w₁) (e₂.run env tools₂ w₂) :=
    sameOutcome_of_pipeline rfl hp₂ hdirectory hsupplied htools hw
  exact (passesOver_shortened hp₁).trans hsame

/-- A run that passes a step over, and stops before it comes to another. -/
theorem run_passesOver_stopped :
    ∃ p w₁, LoadedPipeline.load "run.json" true Stopped.world = (.ok p, w₁) ∧
      (passedOver p.config.steps).map (·.id) = ["a", "d"] ∧
      PassesOver Eq p.config.steps
        ((Stopped.engine p).run Stopped.env Stopped.tools Stopped.world)
        (((Stopped.engine p).shortened p).run Stopped.env Stopped.tools Stopped.world) ∧
      (((Stopped.engine p).shortened p).run Stopped.env Stopped.tools Stopped.world).1.events =
        [.stepStart "b", .stepFinish, .stepStart "c", .stepError "offline"] := by
  have hfacts : (LoadedPipeline.load "run.json" true Stopped.world).1.toOption.map (fun p =>
      ((passedOver p.config.steps).map (·.id),
        (((Stopped.engine p).shortened p).run Stopped.env Stopped.tools Stopped.world).1.events)) =
          some (["a", "d"],
            [.stepStart "b", .stepFinish, .stepStart "c", .stepError "offline"]) := by
    decide +kernel
  rcases hload : LoadedPipeline.load "run.json" true Stopped.world with ⟨result, w₁⟩
  rw [hload] at hfacts
  obtain ⟨p, rfl, hrun⟩ := Sequence.ok_of_toOption_map hfacts
  simp only [Prod.mk.injEq] at hrun
  have hpasses := run_passesOver Eq (Stopped.engine p) ((Stopped.engine p).shortened p) p
    Stopped.env Stopped.tools Stopped.tools Stopped.world Stopped.world "run.json" Stopped.world
    w₁ hload rfl rfl rfl (fun _ _ => rfl) (Tools.alike_self _) rfl
  exact ⟨p, w₁, rfl, hrun.1, hpasses.2, hrun.2⟩

end Engine
end OrgPipeline
