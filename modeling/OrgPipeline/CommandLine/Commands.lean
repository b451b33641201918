import OrgPipeline.CommandLine.Arguments
import OrgPipeline.CommandLine.Inputs
import OrgPipeline.CommandLine.Response
import OrgPipeline.Engine

/-!
# Carrying out commands

A command runs or checks a pipeline, compares two manifests, or builds a change
set. Its data go into the response.
-/

set_option autoImplicit false

namespace OrgPipeline.CommandLine

/-- The directory in which the program was started. It is always there to be asked for. -/
def workingDirectory : Action String := Action.askFiles fun here _ => Place.text here

structure Setting where
  env : Environment
  bin : Option String

namespace Setting

def resolvedBin (s : Setting) : String := Platform.Sfdx.resolveBin s.env s.bin

def tools (s : Setting) (directory : String) : Tools := .ofPrograms s.resolvedBin directory

def expand (s : Setting) (path : String) : String := PathTemplate.expand s.env path

end Setting

/-! ## Pipelines -/

/-- Runs a pipeline. Its inputs are read before its file. -/
def runPipeline (s : Setting) (config : String) (pairs : List String) (spec : Option String)
    (allowUnknown : Bool) : Action Json := do
  let path := s.expand config
  let inputs ← Inputs.merge s.env spec pairs
  let directory ← workingDirectory
  let engine ← (Engine.new directory).load path allowUnknown
  let engine ← Action.ofExcept (engine.setInputs inputs)
  let outcome ← (engine.run s.env (s.tools directory) : StateM World Engine.Outcome)
  let report ← Action.ofExcept outcome.result
  return .object ([("config", .str path), ("sfdxBin", .str s.resolvedBin)] ++ report.members)

def inputJson (i : InputDeclaration) : Json :=
  .object ([("id", .str i.id)] ++ Json.member? "default" (i.default.map Param.toJson) ++
    Json.member? "description" (i.description.map .str))

def variableJson (v : VariableDeclaration) : Json :=
  .object ([("id", .str v.id), ("value", v.value.toJson)] ++
    Json.member? "description" (v.description.map .str))

def validatePipeline (s : Setting) (config : String) (allowUnknown : Bool) : Action Json := do
  let p ← LoadedPipeline.load (s.expand config) allowUnknown
  return .object ([("config", .str p.path)] ++
    Json.member? "version" (p.config.version.map .str) ++
    [("inputs", .arr (p.config.inputs.map inputJson)),
      ("vars", .arr (p.config.vars.map variableJson)),
      ("steps", .arr (p.config.steps.map Step.summary))])

/-! ## Change sets -/

def destructiveFiles (d : ChangeSet.Diff) (mode revertMode : DestructiveMode) :
    List (Manifest × String) :=
  (d.deployDestructive.map fun m => (m, mode.fileName)).toList ++
    (d.revertDestructive.map fun m => (m, "revert-" ++ revertMode.fileName)).toList

def writeManifests (dir : String) : List (Manifest × String) → Action (List String)
  | [] => return []
  | (m, name) :: rest => do
    let path := Path.join dir name
    m.save path
    return path :: (← writeManifests dir rest)

def changesJson (command : String) (changes : Changes) (written : List String) : Json :=
  .object ([("command", .str command), ("changes", changes.toJson)] ++
    if written.isEmpty then [] else [("written", .strings written)])

def diffManifests (s : Setting) (revert deploy : String) (outDir : Option String)
    (mode revertMode : DestructiveMode) : Action Json := do
  let revert ← Manifest.load (s.expand revert)
  let deploy ← Manifest.load (s.expand deploy)
  let d := ChangeSet.diff revert deploy
  let written ← match outDir with
    | some dir => writeManifests (s.expand dir) (destructiveFiles d mode revertMode)
    | none => pure []
  return changesJson "changeset.diff" d.changes written

def createChangeSet (s : Setting) (r : ChangeSet.Request) : Action Json := do
  let directory ← workingDirectory
  let changes ← ChangeSet.create (s.tools directory) directory r
  return changesJson "changeset.create" changes []

/-! ## All commands -/

def Command.perform (s : Setting) : Command → Action Json
  | run config pairs inputs allowUnknown => runPipeline s config pairs inputs allowUnknown
  | validate config allowUnknown => validatePipeline s config allowUnknown
  | diff revert deploy outDir mode revertMode =>
    diffManifests s revert deploy outDir mode revertMode
  | create head base dir mode createRevert revertMode revertDir =>
    createChangeSet s ⟨head, base, mode, dir, createRevert, revertMode, revertDir⟩

namespace Invocation

def perform (env : Environment) (i : Invocation) : StateM World (Except Error Json) :=
  i.command.perform ⟨env, i.bin⟩

end Invocation

/-! ## The program -/

def programName : String := "sfdx-ci"

def version : String := "0.4.2"

structure Exit where
  stdout : String
  code : Nat
  deriving DecidableEq, Repr

def Exit.ofResult (r : Except Error Json) : Exit := ⟨Response.text r, Response.exitCode r⟩

/-- Of a problem with the words only the version is printed on standard output. -/
def Exit.ofUsage (p : UsageProblem) : Exit :=
  ⟨if p = .versionRequested then programName ++ " " ++ version ++ "\n" else "", p.exitCode⟩

def run (env : Environment) (words : List String) : StateM World Exit :=
  match Invocation.parse words with
  | .ok i => do return .ofResult (← i.perform env)
  | .error p => return .ofUsage p

end OrgPipeline.CommandLine
