import OrgPipeline.Engine
import OrgPipeline.Proofs.Table
import OrgPipeline.Proofs.Step.Bindings
import OrgPipeline.Proofs.Step.Errors
import OrgPipeline.Proofs.Pipeline.Load

/-!
# The outcome of a run

Each step finds the store and the world as the steps before it left them. The
run goes on to the first step that fails and may not, and the events, the
records and the state it leaves are those of the steps up to there.
-/

set_option autoImplicit false

namespace OrgPipeline

namespace Step
variable (c : RunContext) (s : Step) (x : Store × World)

def result : Except Error (Option Json) :=
  (s.kind.execute c.env c.tools c.directory x.1 x.2).1.1

/-- The store and the world after the step. One that is not supported does not
touch them. -/
def after : Store × World :=
  if s.kind.isUnsupported then x
  else ((s.execute c x.1 x.2).1.2, (s.execute c x.1 x.2).2)

def AbortsWith (e : Error) : Prop :=
  s.kind.isUnsupported = false ∧ s.continueOnError = false ∧ s.result c x = .error e

def recorded : List (String × StepRecord) :=
  if s.kind.isUnsupported then []
  else match s.result c x with
    | .ok payload => [(s.id, .success payload)]
    | .error e => [(s.id, .failure (.ofError e))]

def finished : List Event := [.stepStart s.id, .stepFinish]

theorem recorded_unsupported {s : Step} (h : s.kind.isUnsupported = true) :
    s.recorded c x = [] := by
  rw [recorded, if_pos h]

theorem recorded_supported {s : Step} (h : s.kind.isUnsupported = false) :
    s.recorded c x = [(s.id, .ofResult (s.result c x))] := by
  rw [recorded, if_neg (by simp [h])]
  cases s.result c x <;> rfl

theorem after_unsupported {s : Step} (h : s.kind.isUnsupported = true) : s.after c x = x := by
  rw [after, if_pos h]

/-- The store after a step that is carried out: the one before with diagnostics
of its parameters and its record, unless there is one under its identifier. -/
theorem after_store {s : Step} (h : s.kind.isUnsupported = false) :
    ∃ ds, (s.after c x).1 =
      Store.setOutput { x.1 with diagnostics := x.1.diagnostics ++ ds } s.id
        (.ofResult (s.result c x)) := by
  obtain ⟨ds, hds⟩ := StepKind.notes_task c.env s.kind x.1
  refine ⟨ds, ?_⟩
  rw [after, if_neg (by simp [h]), ← hds]
  rfl

end Step

theorem runSteps_unsupported {c : RunContext} {s : Step} (h : s.kind.isUnsupported = true)
    (rest : List Step) (x : Store × World) :
    runSteps c (s :: rest) x.1 x.2 =
      ((runSteps c rest x.1 x.2).1.afterSkip s.id, (runSteps c rest x.1 x.2).2) := by
  rw [runSteps, if_pos h]
  rfl

theorem runSteps_supported {c : RunContext} {s : Step} (h : s.kind.isUnsupported = false)
    (rest : List Step) (x : Store × World) :
    runSteps c (s :: rest) x.1 x.2 =
      match s.fatal? (s.result c x) with
      | some e => (.aborted s.id (s.after c x).1 e, (s.after c x).2)
      | none =>
        ((runSteps c rest (s.after c x).1 (s.after c x).2).1.afterStep s.id,
          (runSteps c rest (s.after c x).1 (s.after c x).2).2) := by
  have hresult : (s.execute c x.1 x.2).1.1 = s.result c x := rfl
  -- the rest of the run starts from the store and the world that the step returns
  have hrun : runSteps c (s :: rest) x.1 x.2 =
      (match s.fatal? (s.execute c x.1 x.2).1.1 with
        | some e => (pure (.aborted s.id (s.execute c x.1 x.2).1.2 e) : StateM World RunTrace)
        | none => RunTrace.afterStep s.id <$> runSteps c rest (s.execute c x.1 x.2).1.2)
          (s.execute c x.1 x.2).2 := by
    rw [runSteps, if_neg (by simp [h])]
    rfl
  rw [hrun, hresult, Step.after, if_neg (by simp [h])]
  cases s.fatal? (s.result c x) with
  | some e => rfl
  | none => rfl

theorem runSteps_aborted {c : RunContext} {s : Step} {x : Store × World} {e : Error}
    (h : s.AbortsWith c x e) (rest : List Step) :
    runSteps c (s :: rest) x.1 x.2 = (.aborted s.id (s.after c x).1 e, (s.after c x).2) := by
  obtain ⟨hkind, hcontinue, hresult⟩ := h
  have hfatal : s.fatal? (s.result c x) = some e := by
    rw [hresult, Step.fatal?, if_neg (by simp [hcontinue])]
  rw [runSteps_supported hkind, hfatal]

theorem runSteps_finished {c : RunContext} {s : Step} {x : Store × World}
    (hkind : s.kind.isUnsupported = false) (h : ∀ e, ¬ s.AbortsWith c x e) (rest : List Step) :
    runSteps c (s :: rest) x.1 x.2 =
      ((runSteps c rest (s.after c x).1 (s.after c x).2).1.afterStep s.id,
        (runSteps c rest (s.after c x).1 (s.after c x).2).2) := by
  have hfatal : s.fatal? (s.result c x) = none := by
    cases hr : s.result c x with
    | ok payload => rfl
    | error e =>
      cases hc : s.continueOnError with
      | true => rw [Step.fatal?, if_pos hc]
      | false => exact absurd ⟨hkind, hc, hr⟩ (h e)
  rw [runSteps_supported hkind, hfatal]

def before (c : RunContext) (steps : List Step) (x : Store × World) (k : Nat) : Store × World :=
  (steps.take k).foldl (fun y s => s.after c y) x

def Unbroken (c : RunContext) (steps : List Step) (x : Store × World) : Prop :=
  ∀ j (s : Step), steps[j]? = some s → ∀ e, ¬ s.AbortsWith c (before c steps x j) e

structure FirstAbort (c : RunContext) (steps : List Step) (x : Store × World) (k : Nat) (s : Step)
    (e : Error) : Prop where
  step : steps[k]? = some s
  aborts : s.AbortsWith c (before c steps x k) e
  first : ∀ j < k, ∀ t : Step, steps[j]? = some t →
    ∀ e', ¬ t.AbortsWith c (before c steps x j) e'

def records (c : RunContext) : List Step → Store × World → List (String × StepRecord)
  | [], _ => []
  | s :: rest, x => s.recorded c x ++ records c rest (s.after c x)

section

variable {c : RunContext} {s : Step} {rest steps : List Step} {x : Store × World}

theorem before_cons_succ (k : Nat) :
    before c (s :: rest) x (k + 1) = before c rest (s.after c x) k := rfl

theorem before_succ {k : Nat} (h : steps[k]? = some s) :
    before c steps x (k + 1) = s.after c (before c steps x k) := by
  rw [before, List.take_add_one, h, List.foldl_append]
  rfl

theorem before_length_take (c : RunContext) (steps : List Step) (x : Store × World) (k : Nat) :
    before c (steps.take k) x (steps.take k).length = before c steps x k := by
  rw [before, List.take_length]
  rfl

theorem Unbroken.head (h : Unbroken c (s :: rest) x) : ∀ e, ¬ s.AbortsWith c x e := h 0 s rfl

theorem Unbroken.tail (h : Unbroken c (s :: rest) x) : Unbroken c rest (s.after c x) :=
  fun j t ht => h (j + 1) t ht

theorem FirstAbort.tail {k : Nat} {t : Step} {e : Error}
    (h : FirstAbort c (s :: rest) x (k + 1) t e) : FirstAbort c rest (s.after c x) k t e where
  step := h.step
  aborts := h.aborts
  first j hj u hu := h.first (j + 1) (Nat.succ_lt_succ hj) u hu

theorem runSteps_cons (h : ∀ e, ¬ s.AbortsWith c x e) (rest : List Step) :
    (runSteps c (s :: rest) x.1 x.2).1.events =
        s.finished ++ (runSteps c rest (s.after c x).1 (s.after c x).2).1.events ∧
      (runSteps c (s :: rest) x.1 x.2).1.store =
        (runSteps c rest (s.after c x).1 (s.after c x).2).1.store ∧
      (runSteps c (s :: rest) x.1 x.2).1.error =
        (runSteps c rest (s.after c x).1 (s.after c x).2).1.error ∧
      (runSteps c (s :: rest) x.1 x.2).2 =
        (runSteps c rest (s.after c x).1 (s.after c x).2).2 := by
  cases hkind : s.kind.isUnsupported with
  | true =>
    rw [runSteps_unsupported hkind, Step.after_unsupported c x hkind]
    exact ⟨rfl, rfl, rfl, rfl⟩
  | false =>
    rw [runSteps_finished hkind h]
    exact ⟨rfl, rfl, rfl, rfl⟩

theorem runSteps_unbroken (h : Unbroken c steps x) :
    (runSteps c steps x.1 x.2).1.events = steps.flatMap Step.finished ∧
      (runSteps c steps x.1 x.2).1.store = (before c steps x steps.length).1 ∧
      (runSteps c steps x.1 x.2).1.error = none ∧
      (runSteps c steps x.1 x.2).2 = (before c steps x steps.length).2 := by
  induction steps generalizing x with
  | nil => exact ⟨rfl, rfl, rfl, rfl⟩
  | cons s rest ih =>
    obtain ⟨hevents, hstore, herror, hworld⟩ := runSteps_cons h.head rest
    obtain ⟨ihevents, ihstore, iherror, ihworld⟩ := ih h.tail
    rw [hevents, hstore, herror, hworld, ihevents, ihstore, iherror, ihworld, List.length_cons,
      before_cons_succ]
    exact ⟨rfl, rfl, rfl, rfl⟩

theorem runSteps_firstAbort {k : Nat} {t : Step} {e : Error} (h : FirstAbort c steps x k t e) :
    (runSteps c steps x.1 x.2).1.events =
        (steps.take k).flatMap Step.finished ++ [.stepStart t.id, .stepError e.message] ∧
      (runSteps c steps x.1 x.2).1.store = (before c steps x (k + 1)).1 ∧
      (runSteps c steps x.1 x.2).1.error = some e ∧
      (runSteps c steps x.1 x.2).2 = (before c steps x (k + 1)).2 := by
  induction steps generalizing x k with
  | nil => cases h.step
  | cons s rest ih =>
    cases k with
    | zero =>
      obtain rfl : s = t := Option.some.inj h.step
      have haborts : s.AbortsWith c x e := h.aborts
      rw [runSteps_aborted haborts]
      exact ⟨rfl, rfl, rfl, rfl⟩
    | succ k =>
      have hhead : ∀ e', ¬ s.AbortsWith c x e' := h.first 0 (Nat.succ_pos k) s rfl
      obtain ⟨hevents, hstore, herror, hworld⟩ := runSteps_cons hhead rest
      obtain ⟨ihevents, ihstore, iherror, ihworld⟩ := ih h.tail
      rw [hevents, hstore, herror, hworld, ihevents, ihstore, iherror, ihworld, before_cons_succ]
      simp

/-- Every run is of one of the two sorts. -/
theorem unbroken_or_firstAbort (c : RunContext) (steps : List Step) (x : Store × World) :
    Unbroken c steps x ∨ ∃ k s e, FirstAbort c steps x k s e := by
  induction steps generalizing x with
  | nil =>
    left
    intro j s hs
    cases hs
  | cons s rest ih =>
    by_cases hs : ∃ e, s.AbortsWith c x e
    · obtain ⟨e, he⟩ := hs
      exact Or.inr ⟨0, s, e, rfl, he, fun j hj => absurd hj (Nat.not_lt_zero j)⟩
    have hhead : ∀ e, ¬ s.AbortsWith c x e := fun e he => hs ⟨e, he⟩
    rcases ih (s.after c x) with hrest | ⟨k, t, e, ht⟩
    · left
      intro j u hu
      cases j with
      | zero => exact Option.some.inj hu ▸ hhead
      | succ j => exact hrest j u hu
    · right
      refine ⟨k + 1, t, e, ht.step, ht.aborts, ?_⟩
      intro j hj u hu
      cases j with
      | zero => exact Option.some.inj hu ▸ hhead
      | succ j => exact ht.first j (Nat.lt_of_succ_lt_succ hj) u hu

theorem records_keys (c : RunContext) (steps : List Step) (x : Store × World) :
    (records c steps x).map Prod.fst =
      (steps.filter fun s => !s.kind.isUnsupported).map (·.id) := by
  induction steps generalizing x with
  | nil => rfl
  | cons s rest ih =>
    rw [records, List.map_append, ih]
    cases h : s.kind.isUnsupported with
    | true => simp [Step.recorded_unsupported c x h, h]
    | false => simp [Step.recorded_supported c x h, h]

theorem Step.after_toList (h : s.id ∉ x.1.outputs.keys) :
    (s.after c x).1.outputs.toList = x.1.outputs.toList ++ s.recorded c x := by
  cases hkind : s.kind.isUnsupported with
  | true =>
    rw [Step.after_unsupported c x hkind, Step.recorded_unsupported c x hkind, List.append_nil]
  | false =>
    obtain ⟨ds, hds⟩ := Step.after_store c x hkind
    have hnew : x.1.outputs.contains s.id = false := by
      rw [Table.contains, (Table.get?_eq_none_iff _ _).2 h]
      rfl
    rw [hds, Store.setOutput, if_neg (by simp [hnew]), Step.recorded_supported c x hkind]
    exact Table.toList_insert_of_not_mem _ _ _ h

/-- With identifiers that are all new, every step carried out leaves its record,
in order. -/
theorem before_toList (c : RunContext) (hids : (x.1.outputs.keys ++ steps.map (·.id)).Nodup) :
    (before c steps x steps.length).1.outputs.toList =
      x.1.outputs.toList ++ records c steps x := by
  induction steps generalizing x with
  | nil => simp [before, records]
  | cons s rest ih =>
    have hnew : s.id ∉ x.1.outputs.keys := by
      intro hm
      exact (List.nodup_append.1 hids).2.2 s.id hm s.id (by simp) rfl
    have hafter := Step.after_toList (c := c) hnew
    have hkeys : (s.after c x).1.outputs.keys =
        x.1.outputs.keys ++ (s.recorded c x).map Prod.fst := by
      have h := congrArg (List.map Prod.fst) hafter
      rwa [List.map_append] at h
    -- the store gains no identifier but that of `s`, so the others are still new
    have hrest : ((s.after c x).1.outputs.keys ++ rest.map (·.id)).Nodup := by
      rw [hkeys]
      cases hkind : s.kind.isUnsupported with
      | true =>
        rw [Step.recorded_unsupported c x hkind, List.map_nil, List.append_nil]
        rw [List.map_cons] at hids
        exact hids.sublist (List.Sublist.append_left (List.sublist_cons_self _ _) _)
      | false =>
        rw [Step.recorded_supported c x hkind]
        simpa using hids
    rw [List.length_cons, before_cons_succ, ih hrest, hafter, records, List.append_assoc]

end

namespace PipelineConfig

theorem keepsOutputs_bindInputs (env : Environment) (supplied : Table Json)
    (inputs : List InputDeclaration) : Store.KeepsOutputs (bindInputs env supplied inputs) := by
  induction inputs with
  | nil => exact fun _ => rfl
  | cons input rest ih =>
    exact Store.keepsOutputs_bind (Store.keepsOutputs_setInput env input _) fun _ => ih

theorem startStore_outputs (env : Environment) (config : PipelineConfig) (supplied : Table Json) :
    (config.startStore env supplied).outputs = .empty :=
  Store.keepsOutputs_bind (keepsOutputs_bindInputs env supplied config.inputs)
    (fun _ => Store.keepsOutputs_setVariables env config.vars) Store.empty

end PipelineConfig

namespace Engine

def context (e : Engine) (env : Environment) (tools : Tools) : RunContext :=
  ⟨env, tools, e.directory⟩

def startOf (e : Engine) (p : LoadedPipeline) (env : Environment) (w : World) : Store × World :=
  (p.config.startStore env e.inputs, w)

theorem run_loaded {e : Engine} {p : LoadedPipeline} (hp : e.pipeline = some p)
    (env : Environment) (tools : Tools) (w : World) {trace : RunTrace} {w' : World}
    (h : runSteps (e.context env tools) p.config.steps (e.startOf p env w).1 w = (trace, w')) :
    e.run env tools w =
      (⟨e.start.finish trace, trace.events, (e.start.finish trace).report p trace⟩, w') := by
  have hloaded : e.loaded = .ok p := by
    rw [loaded, hp]
  have hrun : p.config.run ⟨env, tools, e.directory⟩ e.inputs w = (trace, w') := h
  unfold run
  rw [hloaded]
  change (fun r : RunTrace × World =>
    ((⟨e.start.finish r.1, r.1.events, (e.start.finish r.1).report p r.1⟩ : Outcome), r.2))
      (p.config.run ⟨env, tools, e.directory⟩ e.inputs w) = _
  rw [hrun]

theorem outputs_before {e : Engine} {p : LoadedPipeline}
    (hids : (p.config.steps.map (·.id)).Nodup) (env : Environment) (tools : Tools) (w : World)
    (n : Nat) :
    let c := e.context env tools
    let x := e.startOf p env w
    let outputs := (before c p.config.steps x n).1.outputs
    let seen := p.config.steps.take n
    outputs.toList = records c seen x ∧
      outputs.keys = (seen.filter fun s => !s.kind.isUnsupported).map (·.id) ∧
      outputs.keys.Nodup := by
  intro c x outputs seen
  have hempty : x.1.outputs = .empty := PipelineConfig.startStore_outputs env p.config e.inputs
  have hseen : (seen.map (·.id)).Nodup :=
    hids.sublist ((List.take_sublist n p.config.steps).map _)
  have hlist : outputs.toList = records c seen x := by
    have hnew : (x.1.outputs.keys ++ seen.map (·.id)).Nodup := by
      rw [hempty]
      exact hseen
    have h := before_toList c hnew
    rwa [before_length_take, hempty, Table.toList_empty, List.nil_append] at h
  have hkeys : outputs.keys = (seen.filter fun s => !s.kind.isUnsupported).map (·.id) := by
    rw [← records_keys c seen x, ← hlist]
    rfl
  refine ⟨hlist, hkeys, ?_⟩
  rw [hkeys]
  exact hseen.sublist (List.filter_sublist.map _)

/-- What holds of a run that no step ended: every step started and finished, and
those carried out left their records. -/
structure Completed (c : RunContext) (steps : List Step) (x : Store × World) (o : Outcome)
    (w : World) : Prop where
  result : ∃ report, o.result = .ok report ∧ report.status = .completed ∧
    report.outputs = o.engine.outputs
  state : o.engine.state = .completed
  events : o.events = steps.flatMap Step.finished
  outputs : o.engine.outputs.toList = records c steps x
  order : o.engine.outputs.keys = (steps.filter fun s => !s.kind.isUnsupported).map (·.id)
  distinct : o.engine.outputs.keys.Nodup
  world : w = (before c steps x steps.length).2

/-- What holds of a run that the step at a place ended with an error: this step
is the last to have an event or a record, and the world is as it left it. -/
structure FailedAt (c : RunContext) (steps : List Step) (x : Store × World) (k : Nat) (s : Step)
    (error : Error) (o : Outcome) (w : World) : Prop where
  result : o.result = .error error
  state : o.engine.state = .failed
  events : o.events =
    (steps.take k).flatMap Step.finished ++ [.stepStart s.id, .stepError error.message]
  outputs : o.engine.outputs.toList = records c (steps.take (k + 1)) x
  order : o.engine.outputs.keys =
    ((steps.take (k + 1)).filter fun s => !s.kind.isUnsupported).map (·.id)
  distinct : o.engine.outputs.keys.Nodup
  world : w = (s.after c (before c steps x k)).2

section

variable {e : Engine} {p : LoadedPipeline} {env : Environment} {tools : Tools} {w : World}

theorem run_unbroken (hp : e.pipeline = some p) (hids : (p.config.steps.map (·.id)).Nodup)
    (h : Unbroken (e.context env tools) p.config.steps (e.startOf p env w)) :
    Completed (e.context env tools) p.config.steps (e.startOf p env w) (e.run env tools w).1
      (e.run env tools w).2 := by
  obtain ⟨hevents, hstore, herror, hworld⟩ := runSteps_unbroken h
  obtain ⟨houtputs, horder, hdistinct⟩ :=
    outputs_before (e := e) hids env tools w p.config.steps.length
  rw [List.take_length] at houtputs horder
  rw [← hstore] at houtputs horder hdistinct
  rcases htrace : runSteps (e.context env tools) p.config.steps (e.startOf p env w).1
    (e.startOf p env w).2 with ⟨⟨events, store, skipped, error⟩, w'⟩
  rw [htrace] at hevents herror hworld houtputs horder hdistinct
  rw [run_loaded hp env tools w htrace]
  cases herror
  exact ⟨⟨_, rfl, rfl, rfl⟩, rfl, hevents, houtputs, horder, hdistinct, hworld⟩

theorem run_firstAbort (hp : e.pipeline = some p) (hids : (p.config.steps.map (·.id)).Nodup)
    {k : Nat} {s : Step} {error : Error}
    (h : FirstAbort (e.context env tools) p.config.steps (e.startOf p env w) k s error) :
    FailedAt (e.context env tools) p.config.steps (e.startOf p env w) k s error
      (e.run env tools w).1 (e.run env tools w).2 := by
  obtain ⟨hevents, hstore, herror, hworld⟩ := runSteps_firstAbort h
  obtain ⟨houtputs, horder, hdistinct⟩ := outputs_before (e := e) hids env tools w (k + 1)
  rw [← hstore] at houtputs horder hdistinct
  rw [before_succ h.step] at hworld
  rcases htrace : runSteps (e.context env tools) p.config.steps (e.startOf p env w).1
    (e.startOf p env w).2 with ⟨⟨events, store, skipped, ended⟩, w'⟩
  rw [htrace] at hevents herror hworld houtputs horder hdistinct
  rw [run_loaded hp env tools w htrace]
  cases herror
  exact ⟨rfl, rfl, hevents, houtputs, horder, hdistinct, hworld⟩

end

/-- The outcome of running a loaded pipeline, whatever the inputs, the tools and
the world. Without a step that fails and may not, the run completes; otherwise
it fails at the first such step, with its error. No step is carried out without
a handler, and an unexpected error is one that the tools have answered. -/
theorem run_outcome (e : Engine) (p : LoadedPipeline) (env : Environment) (tools : Tools)
    (w : World) (path : String) (allowUnknown : Bool) (w₀ w₁ : World)
    (hload : LoadedPipeline.load path allowUnknown w₀ = (.ok p, w₁))
    (hp : e.pipeline = some p) :
    (Unbroken (e.context env tools) p.config.steps (e.startOf p env w) ∨
      ∃ k s error,
        FirstAbort (e.context env tools) p.config.steps (e.startOf p env w) k s error) ∧
    (Unbroken (e.context env tools) p.config.steps (e.startOf p env w) →
      Completed (e.context env tools) p.config.steps (e.startOf p env w) (e.run env tools w).1
        (e.run env tools w).2) ∧
    (∀ k s error,
      FirstAbort (e.context env tools) p.config.steps (e.startOf p env w) k s error →
        FailedAt (e.context env tools) p.config.steps (e.startOf p env w) k s error
          (e.run env tools w).1 (e.run env tools w).2) ∧
    ∀ s ∈ p.config.steps, s.kind.isUnsupported = false → ∀ x : Store × World,
      (s.kind.resolve env x.1).1.isUnsupported = false ∧
      ∀ error, s.result (e.context env tools) x = .error error → Explained tools error := by
  have hids := LoadedPipeline.load_ok hload
  refine ⟨unbroken_or_firstAbort _ _ _, run_unbroken hp hids,
    fun k s error => run_firstAbort hp hids, ?_⟩
  intro s _ hkind x
  constructor
  · rw [StepKind.isUnsupported_task, hkind]
  · intro error herror
    exact StepKind.explained_execute env tools e.directory hkind x.1 x.2 herror

namespace Stopped

/-- A step that is passed over, one that may fail, one that fails and may not,
and one that is not reached. -/
def text : String :=
  "\x7b\"steps\":[\x7b\"id\":\"a\",\"type\":\"x\"\x7d," ++
    "\x7b\"id\":\"b\",\"type\":\"sfdx.auth.list\"," ++
    "\"continueOnError\":true\x7d,\x7b\"id\":\"c\",\"type\":\"sfdx.auth.list\"\x7d," ++
    "\x7b\"id\":\"d\",\"type\":\"x\"\x7d]\x7d"

def world : World where
  files := ⟨[(["run.json"], .file (Octets.ofText text))]⟩
  here := []
  programs := []
  script := []
  starts := []
  stdin := []
  serial := 0

def env : Environment := fun _ => none

def tools : Tools where
  repository _ := pure ()
  platform _ := throw (Cause.commandFailed "offline" (.ofName "Offline") : Error)

def engine (p : LoadedPipeline) : Engine := (Engine.new "").install p

def context (p : LoadedPipeline) : RunContext := (engine p).context env tools

def start (p : LoadedPipeline) : Store × World := (engine p).startOf p env world

def aborts? (p : LoadedPipeline) (k : Nat) : Option (String × Bool) :=
  p.config.steps[k]?.map fun s =>
    (s.id, !s.kind.isUnsupported && !s.continueOnError &&
      !(s.result (context p) (before (context p) p.config.steps (start p) k)).toBool)

theorem not_abortsWith {p : LoadedPipeline} {k : Nat} {id : String}
    (h : aborts? p k = some (id, false)) (s : Step) (hs : p.config.steps[k]? = some s) (e : Error) :
    ¬ s.AbortsWith (context p) (before (context p) p.config.steps (start p) k) e := by
  rintro ⟨hkind, hcontinue, hresult⟩
  rw [aborts?, hs, Option.map_some, hkind, hcontinue, hresult] at h
  simp [Except.toBool] at h

theorem abortsWith {p : LoadedPipeline} {k : Nat} {id : String}
    (h : aborts? p k = some (id, true)) :
    ∃ s e, p.config.steps[k]? = some s ∧ s.id = id ∧
      s.AbortsWith (context p) (before (context p) p.config.steps (start p) k) e := by
  cases hs : p.config.steps[k]? with
  | none =>
    rw [aborts?, hs] at h
    cases h
  | some s =>
    rw [aborts?, hs, Option.map_some, Option.some.injEq, Prod.mk.injEq, Bool.and_eq_true,
      Bool.and_eq_true, Bool.not_eq_true', Bool.not_eq_true', Bool.not_eq_true'] at h
    obtain ⟨hid, ⟨hkind, hcontinue⟩, hresult⟩ := h
    cases hr : s.result (context p) (before (context p) p.config.steps (start p) k) with
    | ok payload =>
      rw [hr] at hresult
      cases hresult
    | error e => exact ⟨s, e, rfl, hid, hkind, hcontinue, hr⟩

end Stopped

/-- The run of this pipeline fails at its third step. -/
theorem run_outcome_stopped :
    ∃ p w₁, LoadedPipeline.load "run.json" true Stopped.world = (.ok p, w₁) ∧
      ∃ s error, s.id = "c" ∧
        FailedAt (Stopped.context p) p.config.steps (Stopped.start p) 2 s error
          ((Stopped.engine p).run Stopped.env Stopped.tools Stopped.world).1
          ((Stopped.engine p).run Stopped.env Stopped.tools Stopped.world).2 := by
  have hfacts : (LoadedPipeline.load "run.json" true Stopped.world).1.toOption.map (fun p =>
      (List.range 3).map (Stopped.aborts? p)) =
        some [some ("a", false), some ("b", false), some ("c", true)] := by decide +kernel
  rcases hload : LoadedPipeline.load "run.json" true Stopped.world with ⟨result, w₁⟩
  rw [hload] at hfacts
  cases result with
  | error e => cases hfacts
  | ok p =>
    simp only [Except.toOption, Option.map_some, Option.some.injEq, List.range_succ,
      List.range_zero, List.nil_append, List.cons_append, List.map_cons, List.map_nil,
      List.cons.injEq, and_true] at hfacts
    obtain ⟨h₀, h₁, h₂⟩ := hfacts
    obtain ⟨s, error, hs, hid, haborts⟩ := Stopped.abortsWith h₂
    refine ⟨p, w₁, rfl, s, error, hid, ?_⟩
    apply (run_outcome (Stopped.engine p) p Stopped.env Stopped.tools Stopped.world "run.json" true
      Stopped.world w₁ hload rfl).2.2.1
    refine ⟨hs, haborts, ?_⟩
    intro j hj t ht
    rcases (by omega : j = 0 ∨ j = 1) with rfl | rfl
    · exact Stopped.not_abortsWith h₀ t ht
    · exact Stopped.not_abortsWith h₁ t ht

end Engine
end OrgPipeline
