import OrgPipeline.Proofs.Pipeline.PassedOver
import OrgPipeline.Proofs.Engine.Causality

/-!
# What a report counts

The report of a run that comes to its end accounts for every step once: as one
that has succeeded, as one that has failed and may, or as one that was skipped.
Its counts are those of these three sorts.
-/

set_option autoImplicit false

namespace OrgPipeline

namespace Engine

def succeededIn (outputs : Outputs) : List String :=
  (outputs.toList.filter fun r => r.2.isSuccess).map Prod.fst

theorem succeededIn_append_failedIn_perm (outputs : Outputs) :
    (succeededIn outputs ++ failedIn outputs).Perm outputs.keys := by
  have h := List.filter_append_perm (fun r : String × StepRecord => r.2.isSuccess) outputs.toList
  have hnames := h.map Prod.fst
  rwa [List.map_append] at hnames

theorem succeededIn_sublist (outputs : Outputs) : (succeededIn outputs).Sublist outputs.keys :=
  List.filter_sublist.map _

theorem failedIn_sublist (outputs : Outputs) : (failedIn outputs).Sublist outputs.keys :=
  List.filter_sublist.map _

theorem mem_failedIn {outputs : Outputs} {id : String} (h : id ∈ failedIn outputs) :
    ∃ f, (id, StepRecord.failure f) ∈ outputs.toList := by
  obtain ⟨⟨id', record⟩, hmem, rfl⟩ := List.mem_map.1 h
  rw [List.mem_filter] at hmem
  obtain ⟨hrecord, hfailed⟩ := hmem
  cases record with
  | success payload => cases hfailed
  | failure f => exact ⟨f, hrecord⟩

end Engine

/-- The three lists of a report divide the steps, and its counts are their
lengths. -/
structure RunReport.AccountsFor (r : RunReport) (steps : List Step) : Prop where
  total : r.totalSteps = steps.length
  sum : r.succeeded + r.failed + r.skipped = r.totalSteps
  /-- The count of successes is no difference cut off at zero. -/
  exact : r.failed ≤ r.outputs.size ∧ r.succeeded = (Engine.succeededIn r.outputs).length
  division : (Engine.succeededIn r.outputs ++ r.failedSteps ++ r.skippedSteps).Perm
    (steps.map (·.id))
  disjoint : (Engine.succeededIn r.outputs ++ r.failedSteps ++ r.skippedSteps).Nodup
  succeededInOrder : (Engine.succeededIn r.outputs).Sublist (steps.map (·.id))
  failedInOrder : r.failedSteps.Sublist (steps.map (·.id))
  skipped : r.skippedSteps = (passedOver steps).map (·.id)
  tolerated : ∀ s ∈ steps, s.id ∈ r.failedSteps →
    s.kind.isUnsupported = false ∧ s.continueOnError = true

/-- The records are of the steps carried out, one each, and a failure among them
is tolerated. The rest is counting. -/
theorem RunReport.accountsFor {r : RunReport} {steps : List Step}
    (hids : (steps.map (·.id)).Nodup)
    (hkeys : r.outputs.keys = (carriedOut steps).map (·.id))
    (htolerated : Tolerated steps r.outputs.toList)
    (hfailed : r.failedSteps = Engine.failedIn r.outputs)
    (hskipped : r.skippedSteps = (passedOver steps).map (·.id))
    (htotal : r.totalSteps = steps.length) : r.AccountsFor steps := by
  have hrecorded := Engine.succeededIn_append_failedIn_perm r.outputs
  have hsublist : r.outputs.keys.Sublist (steps.map (·.id)) :=
    hkeys ▸ List.filter_sublist.map _
  have hdivision : (Engine.succeededIn r.outputs ++ r.failedSteps ++ r.skippedSteps).Perm
      (steps.map (·.id)) := by
    rw [hfailed, hskipped]
    refine (hrecorded.append_right _).trans ?_
    rw [hkeys, ← List.map_append]
    exact (carriedOut_append_passedOver_perm steps).map _
  have hsize : (Engine.succeededIn r.outputs).length + r.failed = r.outputs.size := by
    have h := hrecorded.length_eq
    rwa [List.length_append, ← hfailed, Table.keys, List.length_map] at h
  have hlength : (Engine.succeededIn r.outputs).length + r.failed + r.skipped = steps.length := by
    have h := hdivision.length_eq
    rwa [List.length_append, List.length_append, List.length_map] at h
  have hsucceeded : r.succeeded = (Engine.succeededIn r.outputs).length := by
    rw [RunReport.succeeded]
    omega
  refine ⟨htotal, ?_, ⟨by omega, hsucceeded⟩, hdivision, hdivision.nodup_iff.2 hids,
    (Engine.succeededIn_sublist _).trans hsublist,
    hfailed ▸ (Engine.failedIn_sublist _).trans hsublist, hskipped, ?_⟩
  · rw [hsucceeded, hlength, htotal]
  · intro s hs hmem
    rw [hfailed] at hmem
    obtain ⟨f, hf⟩ := Engine.mem_failedIn hmem
    obtain ⟨t, ht, hid, hcontinue⟩ := htolerated s.id f hf
    -- the identifiers are distinct, so the step of the failure is this one
    obtain rfl : t = s := List.inj_on_of_nodup_map hids ht hs hid
    refine ⟨?_, hcontinue⟩
    have hkey := (Engine.failedIn_sublist _).subset hmem
    rw [hkeys] at hkey
    obtain ⟨u, hu, hid⟩ := List.mem_map.1 hkey
    obtain ⟨hmem', hkind⟩ := List.mem_filter.1 hu
    obtain rfl : u = t := List.inj_on_of_nodup_map hids hmem' ht hid
    simpa using hkind

namespace Engine

section
variable {e : Engine} {p : LoadedPipeline} {env : Environment} {tools : Tools} {w : World}
  {report : RunReport}

theorem report_ok {t : RunTrace} (h : e.report p t = .ok report) :
    t.error = none ∧ report.outputs = e.outputs ∧ report.failedSteps = failedIn e.outputs ∧
      report.skippedSteps = t.skipped ∧ report.totalSteps = p.config.steps.length := by
  rw [Engine.report] at h
  cases herror : t.error with
  | some error =>
    rw [herror] at h
    cases h
  | none =>
    rw [herror] at h
    cases h
    exact ⟨rfl, rfl, rfl, rfl, rfl⟩

theorem report_unbroken (hp : e.pipeline = some p)
    (h : (e.run env tools w).1.result = .ok report) :
    Unbroken (e.context env tools) p.config.steps (e.startOf p env w) ∧
      report.outputs = (e.run env tools w).1.engine.outputs ∧
      report.failedSteps = failedIn report.outputs ∧
      report.skippedSteps = (passedOver p.config.steps).map (·.id) ∧
      report.totalSteps = p.config.steps.length := by
  rw [run_trace hp] at h ⊢
  obtain ⟨herror, houtputs, hfailed, hskipped, htotal⟩ := report_ok h
  have hrun : Unbroken (e.context env tools) p.config.steps (e.startOf p env w) :=
    unbroken_of_error_none herror
  exact ⟨hrun, houtputs, houtputs ▸ hfailed, hskipped.trans (runSteps_skipped hrun), htotal⟩

theorem lookup_outputs_members (hp : e.pipeline = some p)
    (h : (e.run env tools w).1.result = .ok report) :
    Json.lookup "outputs" report.members = some (e.run env tools w).1.engine.outputsJson := by
  obtain ⟨-, houtputs, -⟩ := report_unbroken hp h
  rw [RunReport.members, houtputs]
  rfl

/-- Every report of a run of a loaded pipeline accounts for its steps. -/
theorem run_report (e : Engine) (p : LoadedPipeline) (env : Environment) (tools : Tools) (w : World)
    (path : String) (allowUnknown : Bool) (w₀ w₁ : World) (report : RunReport)
    (hload : LoadedPipeline.load path allowUnknown w₀ = (.ok p, w₁)) (hp : e.pipeline = some p)
    (h : (e.run env tools w).1.result = .ok report) : report.AccountsFor p.config.steps := by
  have hids := LoadedPipeline.load_ok hload
  obtain ⟨hrun, houtputs, hfailed, hskipped, htotal⟩ := report_unbroken hp h
  have hcompleted := run_unbroken hp hids hrun
  apply RunReport.accountsFor hids _ _ hfailed hskipped htotal
  · rw [houtputs]
    exact hcompleted.order
  · rw [houtputs, hcompleted.outputs]
    exact hrun.tolerated

end

namespace Counted

def text : String :=
  "\x7b\"steps\":[\x7b\"id\":\"a\",\"type\":\"x\"\x7d," ++
    "\x7b\"id\":\"b\",\"type\":\"sfdx.auth.list\"," ++
    "\"continueOnError\":true\x7d,\x7b\"id\":\"c\",\"type\":\"sfdx.force.org.display\"," ++
    "\"targetUserName\":\"ci\"\x7d]\x7d"

def world : World :=
  { Stopped.world with files := ⟨[(["run.json"], .file (Octets.ofText text))]⟩ }

def tools : Tools where
  repository _ := pure ()
  platform
    | .listOrgs => throw (Cause.commandFailed "offline" (.ofName "Offline") : Error)
    | _ => pure .null

end Counted

/-- The report of this run counts one step of each sort. -/
theorem run_report_counted :
    ∃ p w₁, LoadedPipeline.load "run.json" true Counted.world = (.ok p, w₁) ∧
      ∃ report, ((Stopped.engine p).run Stopped.env Counted.tools Counted.world).1.result =
          .ok report ∧
        report.AccountsFor p.config.steps ∧ succeededIn report.outputs = ["c"] ∧
        report.failedSteps = ["b"] ∧ report.skippedSteps = ["a"] := by
  have hfacts : (LoadedPipeline.load "run.json" true Counted.world).1.toOption.map (fun p =>
      ((Stopped.engine p).run Stopped.env Counted.tools Counted.world).1.result.toOption.map
        fun r => (succeededIn r.outputs, r.failedSteps, r.skippedSteps)) =
          some (some (["c"], ["b"], ["a"])) := by decide +kernel
  rcases hload : LoadedPipeline.load "run.json" true Counted.world with ⟨result, w₁⟩
  rw [hload] at hfacts
  obtain ⟨p, rfl, hrun⟩ := Sequence.ok_of_toOption_map hfacts
  obtain ⟨report, hreport, hlists⟩ := Sequence.ok_of_toOption_map hrun
  simp only [Prod.mk.injEq] at hlists
  exact ⟨p, w₁, rfl, report, hreport,
    run_report (Stopped.engine p) p Stopped.env Counted.tools Counted.world "run.json" true
      Counted.world w₁ report hload rfl hreport, hlists⟩

end Engine
end OrgPipeline
