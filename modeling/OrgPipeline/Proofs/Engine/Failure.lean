import OrgPipeline.Proofs.Engine.Causality
import OrgPipeline.Proofs.Record

/-!
# A failure that a later step reads

A step that may fail ends in a failure that the platform reports. What the
envelope of the answer says becomes the record of the step, stays in the store
as it is, and is what later steps read of it.
-/

set_option autoImplicit false

namespace OrgPipeline
open Platform

theorem Step.result_unsupported {c : RunContext} {s : Step} (x : Store × World)
    (h : s.kind.isUnsupported = true) :
    ∃ problem, s.result c x = .error (Cause.unexpected problem) := by
  cases hkind : s.kind with
  | unsupported type =>
    refine ⟨"step type '" ++ type ++ "' has no handler", ?_⟩
    rw [Step.result, hkind]
    rfl
  | _ =>
    rw [hkind] at h
    cases h

theorem Step.get?_after {c : RunContext} {s : Step} {x : Store × World}
    (hkind : s.kind.isUnsupported = false) (hnew : s.id ∉ x.1.outputs.keys) :
    (s.after c x).1.outputs.get? s.id = some (.ofResult (s.result c x)) := by
  obtain ⟨ds, hds⟩ := Step.after_store c x hkind
  have hfree : x.1.outputs.contains s.id = false := by
    rw [Table.contains, (Table.get?_eq_none_iff _ _).2 hnew]
    rfl
  rw [hds, Store.setOutput, if_neg (by simp [hfree])]
  exact (Table.get?_insert _ _ _ _).trans (if_pos rfl)

/-- A step of a run is carried out by a command that the tool starts, and ends in
the error of this command: an envelope in the answer reports a failure. -/
structure ReportedAt (c : RunContext) (steps : List Step) (x : Store × World) (k : Nat) (s : Step)
    (tool : Sfdx) (command : Command) (reply : Reply) (envelope : Envelope) : Prop where
  step : steps[k]? = some s
  reached : Unbroken c (steps.take k) x
  continues : s.continueOnError = true
  read : Envelope.ofOutput? (.ofReply reply) = some envelope
  reports : envelope.ReportsFailure reply
  /-- The command is given in the world that the step has come to by then. -/
  command : ∃ v v' error, (tool.launch command).run v = (.ok reply, v') ∧
    (tool.runEnveloped command v).1 = .error error ∧ s.result c (before c steps x k) = .error error

namespace ReportedAt
variable {c : RunContext} {steps : List Step} {x : Store × World} {k : Nat} {s : Step}
  {tool : Sfdx} {command : Command} {reply : Reply} {envelope : Envelope}

theorem result (h : ReportedAt c steps x k s tool command reply envelope) :
    s.result c (before c steps x k) =
      .error (Envelope.failure (Sfdx.invocation command).1 reply.ending.code envelope) := by
  obtain ⟨v, v', error, hstart, herror, hresult⟩ := h.command
  rw [Sfdx.runEnveloped_of_ok hstart,
    Envelope.answer_of_reportsFailure _ h.read h.reports] at herror
  cases herror
  exact hresult

theorem supported (h : ReportedAt c steps x k s tool command reply envelope) :
    s.kind.isUnsupported = false := by
  by_contra hkind
  obtain ⟨problem, hproblem⟩ :=
    Step.result_unsupported (c := c) (before c steps x k) (by simpa using hkind)
  rw [h.result] at hproblem
  cases hproblem

theorem unbroken (h : ReportedAt c steps x k s tool command reply envelope) :
    Unbroken c (steps.take (k + 1)) x := by
  apply h.reached.take_succ h.step
  rintro e ⟨-, hcontinue, -⟩
  rw [h.continues] at hcontinue
  cases hcontinue

theorem record (h : ReportedAt c steps x k s tool command reply envelope)
    (hnew : s.id ∉ (before c steps x k).1.outputs.keys) :
    (before c steps x (k + 1)).1.outputs.get? s.id =
      some (.failure (envelope.stepFailure (Sfdx.invocation command).1 reply.ending.code)) := by
  rw [before_succ h.step, Step.get?_after h.supported hnew, h.result, StepRecord.ofResult,
    StepFailure.ofError_failure]

end ReportedAt

structure Store.Tells (env : Environment) (store : Store) (id : String) (f : StepFailure) :
    Prop where
  record : store.outputs.get? id = some (.failure f)
  success : '.' ∉ id.toList →
    resolve env (Reference.stepText id ["success"]) store = (some "false", store)
  error : ∀ name path, Reference.Spelled id ("error" :: name :: path) →
    resolve env (Reference.stepText id ("error" :: name :: path)) store =
      (((f.member? name).bind (·.descend path)).bind Json.scalar?, store)

theorem Store.tells_of_record (env : Environment) {store : Store} {id : String} {f : StepFailure}
    (h : store.outputs.get? id = some (.failure f)) : store.Tells env id f where
  record := h
  success hid := by
    rw [resolve_stepText env h (Reference.spelled_success hid), StepRecord.descend_success]
    rfl
  error name path hspelled := by
    rw [resolve_stepText env h hspelled, StepRecord.descend_error, StepFailure.descend_toJson]

namespace Engine

/-- A step that may fail and ends in a reported failure leaves this failure as its
record, in the store that every later step begins with and adds to, and in the
engine. -/
theorem run_reported_failure (e : Engine) (p : LoadedPipeline) (env : Environment) (tools : Tools)
    (w : World) (path : String) (allowUnknown : Bool) (w₀ w₁ : World) (k : Nat) (s : Step)
    (tool : Sfdx) (command : Command) (reply : Reply) (envelope : Envelope)
    (hload : LoadedPipeline.load path allowUnknown w₀ = (.ok p, w₁))
    (hp : e.pipeline = some p)
    (h : ReportedAt (e.context env tools) p.config.steps (e.startOf p env w) k s tool command reply
      envelope) :
    let f := envelope.stepFailure (Sfdx.invocation command).1 reply.ending.code
    (e.run env tools w).1.engine.outputs.get? s.id = some (.failure f) ∧
      ∀ j, k < j → ∀ store : Store,
        store.Extends (before (e.context env tools) p.config.steps (e.startOf p env w) j).1 →
          store.Tells env s.id f := by
  intro f
  have hids := LoadedPipeline.load_ok hload
  have hnew : s.id ∉
      (before (e.context env tools) p.config.steps (e.startOf p env w) k).1.outputs.keys := by
    rw [(outputs_before (e := e) hids env tools w k).2.1]
    intro hmem
    exact id_not_mem_take hids h.step ((List.filter_sublist.map _).subset hmem)
  have hrecord := h.record hnew
  constructor
  · exact Table.get?_of_prefix (run_goesThrough hp h.unbroken).outputs hrecord
  · intro j hj store hstore
    apply Store.tells_of_record
    have hkept := hstore.trans (before_extends_of_le _ p.config.steps _ hj)
    exact Table.get?_of_prefix hkept.outputs hrecord

namespace Reported

def text : String :=
  "\x7b\"steps\":[\x7b\"id\":\"a\",\"type\":\"sfdx.auth.list\",\"continueOnError\":true\x7d," ++
    "\x7b\"id\":\"b\",\"type\":\"x\"\x7d]\x7d"

def answer : String :=
  "\x7b\"status\":1,\"stack\":\"at line 1\"," ++
    "\"result\":[\x7b\"alias\":\"dev\"\x7d],\"data\":null\x7d"

def reply : Reply := ⟨Octets.ofText answer, Octets.ofText "", .exit 1, fun _ files => files⟩

def world : World where
  files := ⟨[(["run.json"], .file (Octets.ofText text))]⟩
  here := []
  programs := [("sfdx", reply)]
  script := []
  starts := []
  stdin := Octets.ofText ""
  serial := 0

def tool : Sfdx := ⟨"sfdx", "/"⟩

def tools : Tools := Tools.ofPrograms "sfdx" "/"

def engine (p : LoadedPipeline) : Engine := (Engine.new "/").install p

def lists : StepKind → Bool
  | .authList => true
  | _ => false

theorem result_lists {c : RunContext} {s : Step} {x : Store × World} {e : Error}
    (hkind : lists s.kind = true) (h : (c.tools.platform .listOrgs x.2).1 = .error e) :
    s.result c x = .error e := by
  cases hs : s.kind with
  | authList =>
    rcases hanswer : c.tools.platform .listOrgs x.2 with ⟨result, w⟩
    rw [hanswer] at h
    cases h
    rw [Step.result, hs]
    exact congrArg Prod.fst (Sequence.bind_of_error hanswer fun v => pure (some v))
  | _ =>
    rw [hs] at hkind
    cases hkind

theorem reportedAt {p : LoadedPipeline} {s : Step} {envelope : Envelope}
    (hs : p.config.steps[0]? = some s) (hcontinue : s.continueOnError = true)
    (hkind : lists s.kind = true) (hread : Envelope.ofOutput? (.ofReply reply) = some envelope) :
    ReportedAt ((engine p).context Stopped.env tools) p.config.steps
      ((engine p).startOf p Stopped.env world) 0 s tool .listOrgs reply envelope := by
  have hreports : envelope.ReportsFailure reply := Or.inr rfl
  have hstart : (tool.launch .listOrgs).run world =
      (.ok reply, ((tool.launch .listOrgs).run world).2) := rfl
  have herror := congrArg Prod.fst (Sfdx.runEnveloped_of_ok hstart)
  rw [Envelope.answer_of_reportsFailure _ hread hreports] at herror
  refine ⟨hs, ?_, hcontinue, hread, hreports, world, _, _, hstart, herror, ?_⟩
  · intro j t ht
    cases ht
  · exact result_lists hkind herror

end Reported

/-- A later step reads the defaults of what the envelope leaves out, and comes to a
text within the result. -/
theorem run_reported_failure_read :
    ∃ p w₁, LoadedPipeline.load "run.json" true Reported.world = (.ok p, w₁) ∧
      ∃ f : StepFailure, f.name = "SfdxError" ∧ f.message = "auth:list exited with status 1" ∧
        ((Reported.engine p).run Stopped.env Reported.tools Reported.world).1.engine.outputs.get?
          "a" = some (.failure f) ∧
        ∀ store : Store,
          store.Extends (before ((Reported.engine p).context Stopped.env Reported.tools)
            p.config.steps ((Reported.engine p).startOf p Stopped.env Reported.world) 1).1 →
          (Store.resolve Stopped.env "$step.a.success" store).1 = some "false" ∧
            (Store.resolve Stopped.env "$step.a.error.logs.0.alias" store).1 = some "dev" := by
  have hstep : (LoadedPipeline.load "run.json" true Reported.world).1.toOption.map (fun p =>
      p.config.steps[0]?.map fun s => (s.id, s.continueOnError, Reported.lists s.kind)) =
        some (some ("a", true, true)) := by decide +kernel
  have henvelope : (Envelope.ofOutput? (.ofReply Reported.reply)).map (fun e =>
      (e.name, e.message, e.result.isNull, (e.result.descend ["0", "alias"]).bind Json.scalar?)) =
        some (none, none, false, some "dev") := by decide +kernel
  obtain ⟨envelope, hread, hfields⟩ := Option.map_eq_some_iff.1 henvelope
  simp only [Prod.mk.injEq] at hfields
  obtain ⟨hname, hmessage, hnull, halias⟩ := hfields
  rcases hload : LoadedPipeline.load "run.json" true Reported.world with ⟨result, w₁⟩
  rw [hload] at hstep
  obtain ⟨p, rfl, hfirst⟩ := Sequence.ok_of_toOption_map hstep
  obtain ⟨s, hs, hfields⟩ := Option.map_eq_some_iff.1 hfirst
  simp only [Prod.mk.injEq] at hfields
  obtain ⟨hid, hcontinue, hkind⟩ := hfields
  obtain ⟨houtputs, htells⟩ := run_reported_failure (Reported.engine p) p Stopped.env
    Reported.tools Reported.world "run.json" true Reported.world w₁ 0 s Reported.tool .listOrgs
    Reported.reply envelope hload rfl (Reported.reportedAt hs hcontinue hkind hread)
  rw [hid] at houtputs htells
  refine ⟨p, w₁, rfl, _, ?_, ?_, houtputs, ?_⟩
  · simp [Envelope.stepFailure, hname]
  · rw [Envelope.stepFailure, hmessage]
    rfl
  · intro store hstore
    have htold := htells 1 Nat.zero_lt_one store hstore
    have hspelled : Reference.Spelled "a" ["error", "logs", "0", "alias"] := by
      refine ⟨by decide, by simp, by decide, ?_⟩
      rintro segment ⟨⟩ c ⟨⟩
      decide
    have hlogs := congrArg Prod.fst (htold.error "logs" ["0", "alias"] hspelled)
    have hkept : (envelope.stepFailure (Sfdx.invocation .listOrgs).1
        Reported.reply.ending.code).member? "logs" = some envelope.result := by
      simp [StepFailure.member?, Envelope.stepFailure, hnull]
    rw [hkept, Option.bind_some, halias] at hlogs
    exact ⟨congrArg Prod.fst (htold.success (by decide)), hlogs⟩

end Engine
end OrgPipeline
