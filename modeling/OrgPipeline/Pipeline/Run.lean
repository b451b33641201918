import OrgPipeline.Pipeline.Config
import OrgPipeline.Pipeline.Event
import OrgPipeline.Step.Task

/-!
# Running the steps

Steps run one after another over one store and one world. Each leaves its
record in the store. A failure ends the run, unless the step may fail. Steps of
an unsupported kind are passed over.
-/

set_option autoImplicit false

namespace OrgPipeline

/-- What a run leaves: its events, the store, the steps passed over, and the
error it ended in. -/
structure RunTrace where
  events : List Event
  store : Store
  skipped : List String
  error : Option Error

namespace RunTrace

def done (store : Store) : RunTrace := ⟨[], store, [], none⟩

def aborted (id : String) (store : Store) (e : Error) : RunTrace :=
  ⟨[.stepStart id, .stepError e.message], store, [], some e⟩

def afterStep (id : String) (t : RunTrace) : RunTrace :=
  { t with events := .stepStart id :: .stepFinish :: t.events }

def afterSkip (id : String) (t : RunTrace) : RunTrace :=
  { t.afterStep id with skipped := id :: t.skipped }

end RunTrace

structure RunContext where
  env : Environment
  tools : Tools
  directory : String

namespace Step

def execute (c : RunContext) (s : Step) (store : Store) :
    StateM World (Except Error (Option Json) × Store) := do
  let (result, store) ← s.kind.execute c.env c.tools c.directory store
  return (result, store.setOutput s.id (StepRecord.ofResult result))

def fatal? (s : Step) : Except Error (Option Json) → Option Error
  | .ok _ => none
  | .error e => if s.continueOnError then none else some e

end Step

/-- Runs steps in order until one fails that may not. -/
def runSteps (c : RunContext) : List Step → Store → StateM World RunTrace
  | [], store => return .done store
  | s :: rest, store => do
    if s.kind.isUnsupported then return (← runSteps c rest store).afterSkip s.id
    else
      let (result, store) ← s.execute c store
      match s.fatal? result with
      | some e => return .aborted s.id store e
      | none => return (← runSteps c rest store).afterStep s.id

namespace PipelineConfig

def bindInputs (env : Environment) (supplied : Table Json) :
    List InputDeclaration → Binding Unit
  | [] => return ()
  | input :: rest => do
    Store.setInput env input (supplied.get? input.id)
    bindInputs env supplied rest

def bind (env : Environment) (config : PipelineConfig) (supplied : Table Json) :
    Binding Unit := do
  bindInputs env supplied config.inputs
  Store.setVariables env config.vars

def startStore (env : Environment) (config : PipelineConfig) (supplied : Table Json) : Store :=
  (config.bind env supplied .empty).2

def run (c : RunContext) (config : PipelineConfig) (supplied : Table Json) :
    StateM World RunTrace :=
  runSteps c config.steps (config.startStore c.env supplied)

end PipelineConfig
end OrgPipeline
