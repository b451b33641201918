import OrgPipeline.Proofs.CommandLine.Errors
import OrgPipeline.Proofs.Engine.Report
import OrgPipeline.Proofs.Json.Members

/-!
# How a run is reported to the outside

A command that runs a pipeline reads inputs, loads a file and carries out steps. The
first thing that goes wrong and may not is what it prints and exits with; if there is
none, it exits with zero and lists the steps that failed and may.
-/

set_option autoImplicit false

namespace OrgPipeline
open Sequence

def Step.fails (c : RunContext) (s : Step) (x : Store × World) : Bool :=
  !s.kind.isUnsupported && !(s.result c x).toBool

def failing (c : RunContext) : List Step → Store × World → List Step
  | [], _ => []
  | s :: rest, x =>
    (if s.fails c x then [s] else []) ++ failing c rest (s.after c x)

theorem filter_recorded (c : RunContext) (s : Step) (x : Store × World) :
    ((s.recorded c x).filter fun r => !r.2.isSuccess).map Prod.fst =
      (if s.fails c x then [s] else []).map (·.id) := by
  unfold Step.recorded Step.fails
  cases s.kind.isUnsupported with
  | true => rfl
  | false => cases s.result c x <;> rfl

theorem filter_records (c : RunContext) (steps : List Step) (x : Store × World) :
    ((records c steps x).filter fun r => !r.2.isSuccess).map Prod.fst =
      (failing c steps x).map (·.id) := by
  induction steps generalizing x with
  | nil => rfl
  | cons s rest ih =>
    rw [records, failing, List.filter_append, List.map_append, List.map_append, ih,
      filter_recorded]

namespace Engine

theorem run_failing {e : Engine} {p : LoadedPipeline} {env : Environment} {tools : Tools}
    {w : World} (hp : e.pipeline = some p) (hids : (p.config.steps.map (·.id)).Nodup)
    (h : Unbroken (e.context env tools) p.config.steps (e.startOf p env w)) :
    ∃ report, (e.run env tools w).1.result = .ok report ∧
      report.failedSteps =
        (failing (e.context env tools) p.config.steps (e.startOf p env w)).map (·.id) := by
  have hcompleted := run_unbroken hp hids h
  obtain ⟨report, hreport, -, houtputs⟩ := hcompleted.result
  obtain ⟨-, -, hfailed, -, -⟩ := report_unbroken hp hreport
  refine ⟨report, hreport, ?_⟩
  rw [hfailed, houtputs, failedIn, hcompleted.outputs, filter_records]

end Engine

namespace RunReport

theorem members_nodup (r : RunReport) (config bin : Json) :
    ((([("config", config), ("sfdxBin", bin)] ++ r.members : Json.Members)).map
      Prod.fst).Nodup := by
  unfold members membersBesideOutputs listed
  split <;> split <;> split <;> simp

theorem lookup_listed (name other : String) (items : List Json) :
    Json.lookup name (listed other items) =
      if other = name ∧ items ≠ [] then some (.arr items) else none := by
  unfold listed
  cases items with
  | nil => simp [Json.lookup]
  | cons v items => simp [Json.lookup]

theorem lookup_failedSteps (r : RunReport) (config bin : Json) :
    Json.lookup "failedSteps" ([("config", config), ("sfdxBin", bin)] ++ r.members) =
      if r.failedSteps = [] then none else some (.strings r.failedSteps) := by
  unfold members membersBesideOutputs
  simp only [Json.lookup_append, lookup_listed, Json.lookup]
  cases r.failedSteps with
  | nil => simp
  | cons id ids => simp [Json.strings]

end RunReport

namespace CommandLine

namespace Response

def opening : String := "\x7b" ++ Json.lineStart 1 ++ Json.quoted "success" ++ ": "

theorem print_envelope (b : Bool) (name : String) (v : Json) :
    ∃ rest, Json.print (.obj [("success", .bool b), (name, v)]) =
      opening ++ (if b then "true" else "false") ++ rest := by
  refine ⟨"," ++ Json.lineStart 1 ++ (Json.quoted name ++ ": " ++ Json.printAt 1 v) ++
    Json.lineStart 0 ++ "\x7d", ?_⟩
  have hprint : Json.print (.obj [("success", .bool b), (name, v)]) =
      Json.block "\x7b" "\x7d" 0 [Json.quoted "success" ++ ": " ++ (if b then "true" else "false"),
        Json.quoted name ++ ": " ++ Json.printAt 1 v] := by
    simp only [Json.print, Json.printAt, Json.printMembers, Nat.zero_add]
  have hjoin (sep s t : String) : Text.join sep [s, t] = s ++ sep ++ t := rfl
  rw [hprint, Json.block, if_neg (by simp), hjoin, opening]
  simp only [String.append_assoc]

theorem get?_errorJson_withRetryable (e : Error) (advice : Bool) :
    (errorJson (e.withRetryable advice)).get? "retryable" = some (.bool advice) ∧
      ∀ name ≠ "retryable",
        (errorJson (e.withRetryable advice)).get? name = (errorJson e).get? name := by
  have hmembers (f : Error) (name : String) : (errorJson f).get? name =
      (Json.lookup name [("code", .str f.code.text), ("message", .str f.message),
        ("details", f.details)]).or ((Json.lookup name
          (if f.hints.isEmpty then [] else [("hints", f.hintsJson)])).or
            (if "retryable" = name then f.retryable.map .bool else none)) := by
    rw [← Json.lookup_member?, ← Json.lookup_append, ← Json.lookup_append, ← List.append_assoc]
    rfl
  constructor
  · have hhints : Json.lookup "retryable" (if (e.withRetryable advice).hints.isEmpty then []
        else [("hints", (e.withRetryable advice).hintsJson)]) = none := by
      split <;> rfl
    rw [hmembers, hhints]
    rfl
  · intro name hname
    rw [hmembers, hmembers, if_neg hname.symm, if_neg hname.symm]
    rfl

theorem text_ok_ne_error (data : Json) (e : Error) : text (.ok data) ≠ text (.error e) := by
  intro h
  obtain ⟨rest, hrest⟩ := print_envelope true "data" data
  obtain ⟨rest', hrest'⟩ := print_envelope false "error" (errorJson e)
  rw [text, text, envelope, envelope, hrest, hrest'] at h
  have hlist := congrArg String.toList h
  simp only [String.toList_append, List.append_assoc, List.append_cancel_left_eq] at hlist
  cases hlist

end Response

def engineAt (place : Place) (p : LoadedPipeline) (inputs : Inputs.Data) : Engine :=
  { (Engine.new (Place.text place)).install p with inputs }

theorem pipeline_engineAt (place : Place) (p : LoadedPipeline) (inputs : Inputs.Data) :
    (engineAt place p inputs).pipeline = some p := rfl

def contextAt (s : Setting) (place : Place) (p : LoadedPipeline) (inputs : Inputs.Data) :
    RunContext :=
  (engineAt place p inputs).context s.env (s.tools (Place.text place))

def startAt (s : Setting) (place : Place) (p : LoadedPipeline) (inputs : Inputs.Data) (w : World) :
    Store × World :=
  (engineAt place p inputs).startOf p s.env w

section
variable (s : Setting) (config : String) (pairs : List String) (spec : Option String)
  (allowUnknown : Bool) (w : World)

structure Ready (inputs : Inputs.Data) (v : World) (p : LoadedPipeline) (u : World) : Prop where
  inputs : Inputs.merge s.env spec pairs w = (.ok inputs, v)
  pipeline : LoadedPipeline.load (s.expand config) allowUnknown v = (.ok p, u)

/-- How a command that runs a pipeline comes to its end: with the first error that
nothing tolerates, or with the steps that failed and may. -/
inductive Course : Except Error (List Step) → Prop
  | noInputs {e : Error} {v : World} (failure : Inputs.merge s.env spec pairs w = (.error e, v)) :
      Course (.error e)
  | noPipeline {inputs : Inputs.Data} {v u : World} {e : Error}
      (read : Inputs.merge s.env spec pairs w = (.ok inputs, v))
      (failure : LoadedPipeline.load (s.expand config) allowUnknown v = (.error e, u)) :
      Course (.error e)
  | stopped {inputs : Inputs.Data} {v u : World} {p : LoadedPipeline} {k : Nat} {step : Step}
      {e : Error} (ready : Ready s config pairs spec allowUnknown w inputs v p u)
      (aborts : FirstAbort (contextAt s v.here p inputs) p.config.steps
        (startAt s v.here p inputs u) k step e) : Course (.error e)
  | completed {inputs : Inputs.Data} {v u : World} {p : LoadedPipeline}
      (ready : Ready s config pairs spec allowUnknown w inputs v p u)
      (unbroken : Unbroken (contextAt s v.here p inputs) p.config.steps
        (startAt s v.here p inputs u)) :
      Course (.ok (failing (contextAt s v.here p inputs) p.config.steps
        (startAt s v.here p inputs u)))

end

section
variable {s : Setting} {config : String} {pairs : List String} {spec : Option String}
  {allowUnknown : Bool} {w : World}

theorem exists_course (s : Setting) (config : String) (pairs : List String)
    (spec : Option String) (allowUnknown : Bool) (w : World) :
    ∃ ending, Course s config pairs spec allowUnknown w ending := by
  rcases hinputs : Inputs.merge s.env spec pairs w with ⟨e | inputs, v⟩
  · exact ⟨_, .noInputs hinputs⟩
  rcases hload : LoadedPipeline.load (s.expand config) allowUnknown v with ⟨e | p, u⟩
  · exact ⟨_, .noPipeline hinputs hload⟩
  rcases unbroken_or_firstAbort (contextAt s v.here p inputs) p.config.steps
    (startAt s v.here p inputs u) with hunbroken | ⟨k, step, e, haborts⟩
  · exact ⟨_, .completed ⟨hinputs, hload⟩ hunbroken⟩
  · exact ⟨_, .stopped ⟨hinputs, hload⟩ haborts⟩

def reportJson (s : Setting) (config : String) (r : RunReport) : Json :=
  .object ([("config", .str (s.expand config)), ("sfdxBin", .str s.resolvedBin)] ++ r.members)

theorem get?_reportJson (s : Setting) (config : String) (r : RunReport) :
    (reportJson s config r).get? "failedSteps" =
      if r.failedSteps = [] then none else some (.strings r.failedSteps) :=
  (Json.get?_object (r.members_nodup _ _) _).trans (r.lookup_failedSteps _ _)

theorem Ready.result {inputs : Inputs.Data} {v u : World} {p : LoadedPipeline}
    (h : Ready s config pairs spec allowUnknown w inputs v p u) :
    (runPipeline s config pairs spec allowUnknown w).1 =
      ((engineAt v.here p inputs).run s.env (s.tools (Place.text v.here)) u).1.result.map
        (reportJson s config) := by
  have hdirectory : workingDirectory v = (.ok (Place.text v.here), v) := rfl
  have hload : (Engine.new (Place.text v.here)).load (s.expand config) allowUnknown v =
      (.ok ((Engine.new (Place.text v.here)).install p), u) := bind_of_ok h.pipeline _
  have hset : Action.ofExcept (((Engine.new (Place.text v.here)).install p).setInputs inputs) u =
      (.ok (engineAt v.here p inputs), u) := rfl
  have hrun : (((engineAt v.here p inputs).run s.env (s.tools (Place.text v.here)) :
      StateM World Engine.Outcome) : Action Engine.Outcome) u =
        (.ok ((engineAt v.here p inputs).run s.env (s.tools (Place.text v.here)) u).1,
          ((engineAt v.here p inputs).run s.env (s.tools (Place.text v.here)) u).2) := rfl
  unfold runPipeline
  rw [bind_of_ok h.inputs, bind_of_ok hdirectory, bind_of_ok hload, bind_of_ok hset,
    bind_of_ok hrun]
  cases ((engineAt v.here p inputs).run s.env (s.tools (Place.text v.here)) u).1.result with
  | error e => rfl
  | ok report => rfl

theorem Course.error {e : Error} (h : Course s config pairs spec allowUnknown w (.error e)) :
    (runPipeline s config pairs spec allowUnknown w).1 = .error e ∧ e.Ordinary := by
  cases h with
  | noInputs failure =>
    refine ⟨?_, Inputs.raises_merge _ _ _ _ _ _ failure⟩
    unfold runPipeline
    rw [bind_of_error failure]
  | @noPipeline inputs v u e read failure =>
    refine ⟨?_, LoadedPipeline.raises_load _ _ _ _ _ failure⟩
    have hdirectory : workingDirectory v = (.ok (Place.text v.here), v) := rfl
    have hload : (Engine.new (Place.text v.here)).load (s.expand config) allowUnknown v =
        (.error e, u) := bind_of_error failure _
    unfold runPipeline
    rw [bind_of_ok read, bind_of_ok hdirectory, bind_of_error hload]
  | stopped ready aborts =>
    obtain ⟨hkind, -, hresult⟩ := aborts.aborts
    refine ⟨?_, (StepKind.foreseen_execute _ _ _ hkind _ _ hresult).ordinary⟩
    have hfailed := Engine.run_firstAbort (pipeline_engineAt _ _ _)
      (LoadedPipeline.load_ok ready.pipeline) aborts
    rw [ready.result, hfailed.result]
    rfl

theorem Course.ok {failed : List Step}
    (h : Course s config pairs spec allowUnknown w (.ok failed)) :
    ∃ report, (runPipeline s config pairs spec allowUnknown w).1 =
        .ok (reportJson s config report) ∧ report.failedSteps = failed.map (·.id) := by
  cases h with
  | completed ready unbroken =>
    obtain ⟨report, hreport, hfailed⟩ :=
      Engine.run_failing (pipeline_engineAt _ _ _) (LoadedPipeline.load_ok ready.pipeline)
        unbroken
    refine ⟨report, ?_, hfailed⟩
    rw [ready.result, hreport]
    rfl

end

section
variable {words : List String} {bin : Option String} {config : String} {pairs : List String}
  {spec : Option String} {allowUnknown : Bool} {env : Environment} {w : World}

theorem run_run (hwords : Invocation.parse words = .ok ⟨bin, .run config pairs spec allowUnknown⟩)
    (env : Environment) (w : World) :
    (run env words w).1 =
      .ofResult (runPipeline ⟨env, bin⟩ config pairs spec allowUnknown w).1 := by
  unfold run
  rw [hwords]
  rfl

theorem run_completed
    (hwords : Invocation.parse words = .ok ⟨bin, .run config pairs spec allowUnknown⟩)
    {failed : List Step} (h : Course ⟨env, bin⟩ config pairs spec allowUnknown w (.ok failed)) :
    (run env words w).1.code = 0 ∧
      ∃ data, (run env words w).1.stdout = Response.text (.ok data) ∧
        (Response.envelope (.ok data)).get? "success" = some (.bool true) ∧
        data.get? "failedSteps" =
          if failed = [] then none else some (.strings (failed.map (·.id))) := by
  obtain ⟨report, hresult, hfailed⟩ := h.ok
  rw [run_run hwords, hresult]
  refine ⟨rfl, _, rfl, rfl, ?_⟩
  rw [get?_reportJson, hfailed]
  simp only [List.map_eq_nil_iff]

theorem run_stopped
    (hwords : Invocation.parse words = .ok ⟨bin, .run config pairs spec allowUnknown⟩) {e : Error}
    (h : Course ⟨env, bin⟩ config pairs spec allowUnknown w (.error e)) :
    (run env words w).1.stdout = Response.text (.error e) ∧
      (Response.envelope (.error e)).get? "success" = some (.bool false) ∧
      (Response.envelope (.error e)).get? "error" = some (Response.errorJson e) ∧
      (Response.errorJson e).get? "code" = some (.str e.code.text) ∧
      (run env words w).1.code = e.code.exitCode ∧ (run env words w).1.code ∈ [1, 2, 20] ∧
      e.code ≠ .engineNotLoaded := by
  obtain ⟨hresult, hordinary⟩ := h.error
  rw [run_run hwords, hresult]
  exact ⟨rfl, rfl, rfl, rfl, rfl, hordinary.exitCode_mem, hordinary.2⟩

end

/-- A command that runs a pipeline exits with zero exactly if it prints a success, and
that it does exactly if nothing went wrong but steps that may fail; these it lists.
Otherwise it prints the first error and exits with its code. It never finds that there
is no pipeline. -/
theorem run_exit (env : Environment) (words : List String) (bin : Option String) (config : String)
    (pairs : List String) (spec : Option String) (allowUnknown : Bool) (w : World)
    (hwords : Invocation.parse words = .ok ⟨bin, .run config pairs spec allowUnknown⟩) :
    let course := Course ⟨env, bin⟩ config pairs spec allowUnknown w
    let exit := (run env words w).1
    (exit.code = 0 ↔ ∃ data, exit.stdout = Response.text (.ok data)) ∧
      (exit.code = 0 ↔ ∃ failed, course (.ok failed)) ∧
      (∀ failed, course (.ok failed) →
        ∃ data, exit.stdout = Response.text (.ok data) ∧
          (Response.envelope (.ok data)).get? "success" = some (.bool true) ∧
          data.get? "failedSteps" =
            if failed = [] then none else some (.strings (failed.map (·.id)))) ∧
      ((∃ failed, course (.ok failed)) ∨ ∃ e, course (.error e)) ∧
      ∀ e, course (.error e) →
        exit.stdout = Response.text (.error e) ∧
          (Response.envelope (.error e)).get? "success" = some (.bool false) ∧
          (Response.envelope (.error e)).get? "error" = some (Response.errorJson e) ∧
          (Response.errorJson e).get? "code" = some (.str e.code.text) ∧
          exit.code = e.code.exitCode ∧ exit.code ∈ [1, 2, 20] ∧ e.code ≠ .engineNotLoaded := by
  intro course exit
  have hends : (∃ failed, course (.ok failed)) ∨ ∃ e, course (.error e) := by
    obtain ⟨e | failed, h⟩ := exists_course ⟨env, bin⟩ config pairs spec allowUnknown w
    · exact .inr ⟨e, h⟩
    · exact .inl ⟨failed, h⟩
  have hnonzero : ∀ e, course (.error e) → exit.code ≠ 0 := by
    intro e h hzero
    obtain ⟨-, -, -, -, -, hcode, -⟩ := run_stopped hwords h
    exact absurd (hzero ▸ hcode) (by decide)
  refine ⟨?_, ?_, fun failed h => (run_completed hwords h).2, hends,
    fun e h => run_stopped hwords h⟩
  · rcases hends with ⟨failed, h⟩ | ⟨e, h⟩
    · obtain ⟨hzero, data, hdata, -⟩ := run_completed hwords h
      exact iff_of_true hzero ⟨data, hdata⟩
    · obtain ⟨hprinted, -⟩ := run_stopped hwords h
      refine iff_of_false (hnonzero e h) ?_
      rintro ⟨data, hdata⟩
      exact Response.text_ok_ne_error data e (hdata.symm.trans hprinted)
  · refine ⟨?_, fun ⟨failed, h⟩ => (run_completed hwords h).1⟩
    intro hzero
    rcases hends with h | ⟨e, h⟩
    · exact h
    · exact absurd hzero (hnonzero e h)

namespace Tolerant

def words : List String := ["run", "run.json", "--allow-unknown-steps"]

def text : String :=
  "\x7b\"steps\":[\x7b\"id\":\"a\",\"type\":\"x\"\x7d,\x7b\"id\":\"b\"," ++
    "\"type\":\"sfdx.auth.list\",\"continueOnError\":true\x7d]\x7d"

def world : World :=
  { Engine.Stopped.world with files := ⟨[(["run.json"], .file (Octets.ofText text))]⟩ }

end Tolerant

/-- The same command comes to its end in the one world and is stopped in the other. -/
theorem run_exit_tolerated :
    Invocation.parse Tolerant.words = .ok ⟨none, .run "run.json" [] none true⟩ ∧
      (run Engine.Stopped.env Tolerant.words Tolerant.world).1.code = 0 ∧
      (∃ failed, Course ⟨Engine.Stopped.env, none⟩ "run.json" [] none true Tolerant.world
        (.ok failed)) ∧
      ∃ e, Course ⟨Engine.Stopped.env, none⟩ "run.json" [] none true Engine.Stopped.world
        (.error e) ∧ e.code.exitCode = 1 := by
  have hwords : Invocation.parse Tolerant.words = .ok ⟨none, .run "run.json" [] none true⟩ := rfl
  have hzero : (run Engine.Stopped.env Tolerant.words Tolerant.world).1.code = 0 := by
    decide +kernel
  have hone : (run Engine.Stopped.env Tolerant.words Engine.Stopped.world).1.code = 1 := by
    decide +kernel
  obtain ⟨-, htolerated, -⟩ :=
    run_exit Engine.Stopped.env Tolerant.words none "run.json" [] none true Tolerant.world hwords
  obtain ⟨-, hcompleted, -, hends, hstopped⟩ :=
    run_exit Engine.Stopped.env Tolerant.words none "run.json" [] none true Engine.Stopped.world
      hwords
  refine ⟨hwords, hzero, htolerated.1 hzero, ?_⟩
  rcases hends with h | ⟨e, h⟩
  · exact absurd (hcompleted.2 h) (by rw [hone]; decide)
  · obtain ⟨-, -, -, -, hexit, -⟩ := hstopped e h
    exact ⟨e, h, hexit.symm.trans hone⟩

end CommandLine
end OrgPipeline
