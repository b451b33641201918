import OrgPipeline.Pipeline.Load
import OrgPipeline.Pipeline.Run

/-!
# The engine

An engine holds a pipeline and supplied inputs, and what the last run left.
Every run begins with a store of its own. A failed load changes nothing.
-/

set_option autoImplicit false

namespace OrgPipeline

inductive RunState where
  | idle
  | loaded
  | running
  | completed
  | failed
  deriving DecidableEq, Repr

def RunState.text : RunState → String
  | idle => "idle"
  | loaded => "loaded"
  | running => "running"
  | completed => "completed"
  | failed => "failed"

structure RunReport where
  status : RunState
  outputs : Outputs
  failedSteps : List String
  skippedSteps : List String
  diagnostics : List Diagnostic
  totalSteps : Nat

namespace RunReport

def failed (r : RunReport) : Nat := r.failedSteps.length

def succeeded (r : RunReport) : Nat := r.outputs.size - r.failed

def skipped (r : RunReport) : Nat := r.skippedSteps.length

def summaryJson (r : RunReport) : Json :=
  .object [("totalSteps", .nat r.totalSteps), ("succeeded", .nat r.succeeded),
    ("failed", .nat r.failed), ("skipped", .nat r.skipped)]

def listed (name : String) (items : List Json) : Json.Members :=
  if items.isEmpty then [] else [(name, .arr items)]

def membersBesideOutputs (r : RunReport) : Json.Members :=
  [("status", .str r.status.text)] ++
    listed "failedSteps" (r.failedSteps.map .str) ++
    listed "skippedSteps" (r.skippedSteps.map .str) ++
    listed "diagnostics" (r.diagnostics.map Diagnostic.toJson) ++
    [("summary", r.summaryJson)]

def members (r : RunReport) : Json.Members :=
  ("outputs", r.outputs.toJson) :: r.membersBesideOutputs

end RunReport

/-- A step by its place in the pipeline, counted from one. -/
structure StepPlace where
  step : Step
  number : Nat
  total : Nat

structure Engine where
  directory : String
  pipeline : Option LoadedPipeline
  inputs : Table Json
  state : RunState
  outputs : Outputs
  diagnostics : List Diagnostic

namespace Engine

def new (directory : String) : Engine := ⟨directory, none, .empty, .idle, .empty, []⟩

/-- Takes a pipeline up; what an earlier run left is gone. -/
def install (e : Engine) (p : LoadedPipeline) : Engine :=
  { e with pipeline := some p, outputs := .empty, diagnostics := [], state := .loaded }

def load (e : Engine) (path : String) (allowUnknown : Bool) : Action Engine := do
  return e.install (← LoadedPipeline.load path allowUnknown)

def loaded (e : Engine) : Except Error LoadedPipeline :=
  match e.pipeline with
  | some p => .ok p
  | none => .error (Cause.notLoaded : Error)

/-- Supplies inputs for the runs to come; those that are not declared are
ignored. -/
def setInputs (e : Engine) (inputs : Table Json) : Except Error Engine := do
  let _ ← e.loaded
  return { e with inputs }

def getStep (e : Engine) (id : String) : Option StepPlace := do
  let p ← e.pipeline
  let position ← p.index.position? id
  let step ← p.config.steps[position]?
  return ⟨step, position + 1, p.config.steps.length⟩

def outputsJson (e : Engine) : Json := e.outputs.toJson

/-! ## Running -/

def failedIn (outputs : Outputs) : List String :=
  (outputs.toList.filter fun r => !r.2.isSuccess).map Prod.fst

def start (e : Engine) : Engine := { e with state := .running }

def finish (e : Engine) (t : RunTrace) : Engine :=
  { e with
    outputs := t.store.outputs
    diagnostics := t.store.diagnostics
    state := if t.error.isSome then .failed else .completed }

def report (e : Engine) (p : LoadedPipeline) (t : RunTrace) : Except Error RunReport :=
  match t.error with
  | some error => .error error
  | none => .ok {
      status := e.state
      outputs := e.outputs
      failedSteps := failedIn e.outputs
      skippedSteps := t.skipped
      diagnostics := e.diagnostics
      totalSteps := p.config.steps.length }

/-- What a call to run the pipeline gives: the engine after it, the events it
sent, and its report or error. -/
structure Outcome where
  engine : Engine
  events : List Event
  result : Except Error RunReport

def run (e : Engine) (env : Environment) (tools : Tools) : StateM World Outcome := do
  match e.loaded with
  | .error error => return ⟨e, [], .error error⟩
  | .ok p =>
    let trace ← p.config.run ⟨env, tools, e.directory⟩ e.inputs
    let finished := e.start.finish trace
    return ⟨finished, trace.events, finished.report p trace⟩

end Engine
end OrgPipeline
