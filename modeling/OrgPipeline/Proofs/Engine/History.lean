import OrgPipeline.Proofs.Pipeline.Prefix

/-!
# The life of an engine

An engine is asked, call after call, to load a pipeline, to take inputs and to
run, each time in a world of its own. What can be seen of it between two calls
is an invariant of the calls. A call that cannot do what it is asked leaves the
engine alone.
-/

set_option autoImplicit false

namespace OrgPipeline.Engine

inductive Call where
  | load (path : String) (allowUnknown : Bool)
  | setInputs (inputs : Table Json)
  | run (env : Environment) (tools : Tools)

def answer (e : Engine) : Call → World → Engine × Option Error
  | .load path allowUnknown, w =>
    match (e.load path allowUnknown w).1 with
    | .ok loaded => (loaded, none)
    | .error error => (e, some error)
  | .setInputs inputs, _ =>
    match e.setInputs inputs with
    | .ok supplied => (supplied, none)
    | .error error => (e, some error)
  | .run env tools, w =>
    match (e.run env tools w).1 with
    | ⟨finished, _, .ok _⟩ => (finished, none)
    | ⟨stopped, _, .error error⟩ => (stopped, some error)

def after (e : Engine) (calls : List (Call × World)) : Engine :=
  calls.foldl (fun e call => (e.answer call.1 call.2).1) e

def Call.installed : Call → World → Option LoadedPipeline
  | .load path allowUnknown, w => (LoadedPipeline.load path allowUnknown w).1.toOption
  | .setInputs _, _ => none
  | .run _ _, _ => none

theorem after_nil (e : Engine) : e.after [] = e := rfl

theorem after_cons (e : Engine) (call : Call × World) (rest : List (Call × World)) :
    e.after (call :: rest) = (e.answer call.1 call.2).1.after rest := rfl

section Answer
variable {e : Engine} {p : LoadedPipeline} {error : Error} {path : String} {allowUnknown : Bool}
  {inputs : Table Json} {env : Environment} {tools : Tools} {w w' : World}

theorem answer_load_ok (h : LoadedPipeline.load path allowUnknown w = (.ok p, w')) :
    e.answer (.load path allowUnknown) w = (e.install p, none) := by
  have hload : e.load path allowUnknown w = (.ok (e.install p), w') := by
    rw [load, Sequence.bind_of_ok h]
    rfl
  rw [answer, hload]

theorem answer_load_error (h : LoadedPipeline.load path allowUnknown w = (.error error, w')) :
    e.answer (.load path allowUnknown) w = (e, some error) := by
  have hload : e.load path allowUnknown w = (.error error, w') := by
    rw [load, Sequence.bind_of_error h]
  rw [answer, hload]

theorem loaded_none (h : e.pipeline = none) : e.loaded = .error (Cause.notLoaded : Error) := by
  rw [loaded, h]

theorem loaded_some (h : e.pipeline = some p) : e.loaded = .ok p := by
  rw [loaded, h]

theorem answer_setInputs_none (h : e.pipeline = none) :
    e.answer (.setInputs inputs) w = (e, some (Cause.notLoaded : Error)) := by
  have hset : e.setInputs inputs = .error (Cause.notLoaded : Error) := by
    rw [setInputs, loaded_none h]
    rfl
  rw [answer, hset]

theorem answer_setInputs_some (h : e.pipeline = some p) :
    e.answer (.setInputs inputs) w = ({ e with inputs }, none) := by
  have hset : e.setInputs inputs = .ok { e with inputs } := by
    rw [setInputs, loaded_some h]
    rfl
  rw [answer, hset]

theorem run_none (h : e.pipeline = none) :
    e.run env tools w = (⟨e, [], .error (Cause.notLoaded : Error)⟩, w) := by
  unfold run
  rw [loaded_none h]
  rfl

theorem answer_run : (e.answer (.run env tools) w).1 = (e.run env tools w).1.engine := by
  rw [answer]
  split
  · next h => rw [h]
  · next h => rw [h]

theorem answer_run_none (h : e.pipeline = none) :
    e.answer (.run env tools) w = (e, some (Cause.notLoaded : Error)) := by
  rw [answer, run_none h]

theorem run_keeps (e : Engine) (env : Environment) (tools : Tools) (w : World) :
    (e.run env tools w).1.engine.pipeline = e.pipeline ∧
      (e.run env tools w).1.engine.directory = e.directory ∧
      (e.run env tools w).1.engine.inputs = e.inputs := by
  cases hp : e.pipeline with
  | none =>
    rw [run_none hp]
    exact ⟨hp, rfl, rfl⟩
  | some p =>
    rw [run_loaded hp env tools w rfl]
    exact ⟨hp, rfl, rfl⟩

/-- Without a pipeline only one thing is left to do: a call that installs none
fails, and the engine is as it was. -/
theorem answer_unloaded (h : e.pipeline = none) {call : Call} (hcall : call.installed w = none) :
    (e.answer call w).1 = e := by
  cases call with
  | load path allowUnknown =>
    rcases hload : LoadedPipeline.load path allowUnknown w with ⟨result, w'⟩
    rw [Call.installed, hload] at hcall
    cases result with
    | ok p => cases hcall
    | error error => rw [answer_load_error hload]
  | setInputs inputs => rw [answer_setInputs_none h]
  | run env tools => rw [answer_run_none h]

/-- The pipeline of the engine is the one installed last. -/
theorem answer_pipeline (e : Engine) (call : Call) (w : World) :
    (e.answer call w).1.pipeline = (call.installed w).or e.pipeline := by
  cases call with
  | load path allowUnknown =>
    rw [Call.installed]
    rcases hload : LoadedPipeline.load path allowUnknown w with ⟨result, w'⟩
    cases result with
    | ok p =>
      rw [answer_load_ok hload]
      rfl
    | error error =>
      rw [answer_load_error hload]
      rfl
  | setInputs inputs =>
    cases hp : e.pipeline with
    | none =>
      rw [answer_setInputs_none hp]
      exact hp
    | some p =>
      rw [answer_setInputs_some hp]
      exact hp
  | run env tools =>
    rw [answer_run, (run_keeps e env tools w).1]
    rfl

theorem answer_directory (e : Engine) (call : Call) (w : World) :
    (e.answer call w).1.directory = e.directory := by
  cases call with
  | load path allowUnknown =>
    rcases hload : LoadedPipeline.load path allowUnknown w with ⟨result, w'⟩
    cases result with
    | ok p =>
      rw [answer_load_ok hload]
      rfl
    | error error => rw [answer_load_error hload]
  | setInputs inputs =>
    cases hp : e.pipeline with
    | none => rw [answer_setInputs_none hp]
    | some p => rw [answer_setInputs_some hp]
  | run env tools => rw [answer_run, (run_keeps e env tools w).2.1]

end Answer

structure Settled (e : Engine) : Prop where
  notRunning : e.state ≠ .running
  idle : e.state = .idle ↔ e.pipeline = none
  distinct : ∀ p, e.pipeline = some p → (p.config.steps.map (·.id)).Nodup
  fresh : e.state = .idle ∨ e.state = .loaded → e.outputs = .empty ∧ e.diagnostics = []
  completed : ∀ p, e.pipeline = some p → e.state = .completed →
    (∀ s ∈ p.config.steps, s.kind.isUnsupported = false → e.outputs.contains s.id = true) ∧
      Tolerated p.config.steps e.outputs.toList
  /-- The last record is that of the step that ended the run. -/
  failed : ∀ p, e.pipeline = some p → e.state = .failed →
    ∃ earlier, ∃ s ∈ p.config.steps, ∃ f, s.continueOnError = false ∧
      e.outputs.toList = earlier ++ [(s.id, .failure f)] ∧ Tolerated p.config.steps earlier

theorem settled_new (directory : String) : Settled (new directory) where
  notRunning := nofun
  idle := ⟨fun _ => rfl, fun _ => rfl⟩
  distinct := nofun
  fresh _ := ⟨rfl, rfl⟩
  completed := nofun
  failed := nofun

theorem settled_install (e : Engine) {p : LoadedPipeline}
    (hids : (p.config.steps.map (·.id)).Nodup) : Settled (e.install p) where
  notRunning := nofun
  idle := ⟨nofun, nofun⟩
  distinct _ hq := Option.some.inj hq ▸ hids
  fresh _ := ⟨rfl, rfl⟩
  completed := nofun
  failed := nofun

theorem Settled.setInputs {e : Engine} (h : Settled e) (inputs : Table Json) :
    Settled { e with inputs } where
  notRunning := h.notRunning
  idle := h.idle
  distinct := h.distinct
  fresh := h.fresh
  completed := h.completed
  failed := h.failed

section Run
variable {c : RunContext} {p : LoadedPipeline} {x : Store × World} {o : Outcome} {w : World}

theorem Completed.settled (h : Completed c p.config.steps x o w) (hp : o.engine.pipeline = some p)
    (hids : (p.config.steps.map (·.id)).Nodup) (hunbroken : Unbroken c p.config.steps x) :
    Settled o.engine where
  notRunning := by simp [h.state]
  idle := by simp [h.state, hp]
  distinct q hq := Option.some.inj (hp.symm.trans hq) ▸ hids
  fresh := by simp [h.state]
  completed q hq _ := by
    obtain rfl : p = q := Option.some.inj (hp.symm.trans hq)
    refine ⟨?_, ?_⟩
    · intro s hs hkind
      have hkey : s.id ∈ o.engine.outputs.keys := by
        rw [h.order]
        exact List.mem_map_of_mem (List.mem_filter.2 ⟨hs, by simp [hkind]⟩)
      rw [Table.contains, Option.isSome_iff_ne_none]
      exact fun hnone => (Table.get?_eq_none_iff _ _).1 hnone hkey
    · rw [h.outputs]
      exact hunbroken.tolerated
  failed := by simp [h.state]

theorem FailedAt.settled {k : Nat} {s : Step} {error : Error}
    (h : FailedAt c p.config.steps x k s error o w) (hp : o.engine.pipeline = some p)
    (hids : (p.config.steps.map (·.id)).Nodup)
    (habort : FirstAbort c p.config.steps x k s error) : Settled o.engine where
  notRunning := by simp [h.state]
  idle := by simp [h.state, hp]
  distinct q hq := Option.some.inj (hp.symm.trans hq) ▸ hids
  fresh := by simp [h.state]
  completed := by simp [h.state]
  failed q hq _ := by
    obtain rfl : p = q := Option.some.inj (hp.symm.trans hq)
    obtain ⟨hkind, hcontinue, hresult⟩ := habort.aborts
    refine ⟨records c (p.config.steps.take k) x, s, List.mem_of_getElem? habort.step,
      .ofError error, hcontinue, ?_, habort.unbroken.tolerated.of_take⟩
    rw [h.outputs, records_take_succ habort.step, Step.recorded_supported _ _ hkind, hresult]
    rfl

end Run

theorem Settled.run {e : Engine} (h : Settled e) (env : Environment) (tools : Tools) (w : World) :
    Settled (e.run env tools w).1.engine := by
  cases hp : e.pipeline with
  | none =>
    rw [run_none hp]
    exact h
  | some p =>
    have hids := h.distinct p hp
    have hp' : (e.run env tools w).1.engine.pipeline = some p :=
      (run_keeps e env tools w).1.trans hp
    rcases unbroken_or_firstAbort (e.context env tools) p.config.steps (e.startOf p env w) with
      hrun | ⟨k, s, error, hrun⟩
    · exact (run_unbroken hp hids hrun).settled hp' hids hrun
    · exact (run_firstAbort hp hids hrun).settled hp' hids hrun

theorem Settled.answer {e : Engine} (h : Settled e) (call : Call) (w : World) :
    Settled (e.answer call w).1 := by
  cases call with
  | load path allowUnknown =>
    rcases hload : LoadedPipeline.load path allowUnknown w with ⟨result, w'⟩
    cases result with
    | ok p =>
      rw [answer_load_ok hload]
      exact settled_install e (LoadedPipeline.load_ok hload)
    | error error =>
      rw [answer_load_error hload]
      exact h
  | setInputs inputs =>
    cases hp : e.pipeline with
    | none =>
      rw [answer_setInputs_none hp]
      exact h
    | some p =>
      rw [answer_setInputs_some hp]
      exact h.setInputs inputs
  | run env tools =>
    rw [answer_run]
    exact h.run env tools w

theorem Settled.after {e : Engine} (h : Settled e) (calls : List (Call × World)) :
    Settled (e.after calls) := by
  induction calls generalizing e with
  | nil => exact h
  | cons call rest ih => exact ih (h.answer call.1 call.2)

theorem after_directory (e : Engine) (calls : List (Call × World)) :
    (e.after calls).directory = e.directory := by
  induction calls generalizing e with
  | nil => rfl
  | cons call rest ih => rw [after_cons, ih, answer_directory]

theorem after_pipeline_none {e : Engine} {calls : List (Call × World)} :
    (e.after calls).pipeline = none ↔
      e.pipeline = none ∧ ∀ call ∈ calls, call.1.installed call.2 = none := by
  induction calls generalizing e with
  | nil => simp [after_nil]
  | cons call rest ih =>
    rw [after_cons, ih, answer_pipeline, Option.or_eq_none_iff, List.forall_mem_cons]
    tauto

theorem after_unloaded {e : Engine} {calls : List (Call × World)} (h : e.pipeline = none)
    (hcalls : ∀ call ∈ calls, call.1.installed call.2 = none) : e.after calls = e := by
  induction calls with
  | nil => rfl
  | cons call rest ih =>
    rw [List.forall_mem_cons] at hcalls
    rw [after_cons, answer_unloaded h hcalls.1]
    exact ih hcalls.2

/-- Whatever was asked of an engine since it was made, between two calls it is
settled. A load that fails leaves it alone. As long as no load has succeeded it
is as it was made, and takes neither inputs nor runs. -/
theorem settled_after (directory : String) (calls : List (Call × World)) :
    let e := (new directory).after calls
    Settled e ∧
      (∀ path allowUnknown w error, (LoadedPipeline.load path allowUnknown w).1 = .error error →
        e.answer (.load path allowUnknown) w = (e, some error)) ∧
      (e.pipeline = none ↔ ∀ call ∈ calls, call.1.installed call.2 = none) ∧
      (e.pipeline = none → e = new directory ∧
        (∀ inputs w, e.answer (.setInputs inputs) w = (e, some (Cause.notLoaded : Error))) ∧
        ∀ env tools w, e.answer (.run env tools) w = (e, some (Cause.notLoaded : Error))) := by
  intro e
  have hnone : e.pipeline = none ↔ ∀ call ∈ calls, call.1.installed call.2 = none :=
    after_pipeline_none.trans (and_iff_right rfl)
  refine ⟨(settled_new directory).after calls, ?_, hnone, ?_⟩
  · intro path allowUnknown w error h
    exact answer_load_error (Prod.ext h rfl)
  · intro hp
    exact ⟨after_unloaded rfl (hnone.1 hp), fun _ _ => answer_setInputs_none hp,
      fun _ _ _ => answer_run_none hp⟩

end OrgPipeline.Engine
