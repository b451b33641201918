import OrgPipeline.Error
import OrgPipeline.Declaration
import OrgPipeline.Step.Basic
import OrgPipeline.Json.Reader
import OrgPipeline.Yaml.Value
import OrgPipeline.Text.Blank

/-!
# Pipeline files

A pipeline file declares inputs, variables and steps, in YAML or JSON. Every
step is checked on its own and all problems are reported together, in the order
of the steps; identifiers must be unique.
-/

set_option autoImplicit false

namespace OrgPipeline

inductive Format where
  | yaml
  | json
  deriving DecidableEq, Repr

def Format.label : Format → String
  | yaml => "YAML"
  | json => "JSON"

def Format.read : Format → String → Option Json
  | yaml, text => Yaml.read text
  | json, text => Json.read text

structure PipelineConfig where
  version : Option String
  inputs : List InputDeclaration
  vars : List VariableDeclaration
  steps : List Step

/-- A step as the file has it: its own members apart from those of its kind. -/
structure StepEntry where
  id : String
  type : String
  continueOnError : Bool
  params : Json.Members

namespace StepEntry

def isOwn (name : String) : Bool := name = "id" ∨ name = "type" ∨ name = "continueOnError"

def own : Schema (String × String × Bool) :=
  (fun id type continueOnError => (id, type, continueOnError)) <$>
    .required "id" Fit.text <*> .required "type" Fit.text <*>
    .withDefault "continueOnError" Fit.boolean false

/-- Unlike other records a step must be an object. -/
def ofJson : Json → Fit StepEntry
  | .obj members => do
    let (id, type, continueOnError) ← own.readMembers false members
    .ok ⟨id, type, continueOnError, members.filter fun m => !isOwn m.1⟩
  | v => .error (.invalidType v "struct RawStep")

end StepEntry

/-- A pipeline file before its steps are looked at. -/
structure PipelineEntry where
  version : Option String
  inputs : List InputDeclaration
  vars : List VariableDeclaration
  steps : List StepEntry

namespace PipelineEntry

def schema : Schema PipelineEntry :=
  mk <$> .trailing "version" Fit.text <*>
    .withDefault "inputs" (Fit.list InputDeclaration.ofJson) [] <*>
    .withDefault "vars" (Fit.list VariableDeclaration.ofJson) [] <*>
    .required "steps" (Fit.list StepEntry.ofJson)

def ofJson (v : Json) : Fit PipelineEntry := schema.read false "RawConfig" v

end PipelineEntry

/-! ## Checking steps -/

inductive StepProblem where
  | blankId (position : Nat)
  | unknownType (position : Nat) (id type : String)
  | misfit (position : Nat) (id : String) (why : Misfit)

namespace StepProblem

def position : StepProblem → Nat
  | blankId n => n
  | unknownType n _ _ => n
  | misfit n _ _ => n

def text : StepProblem → String
  | blankId n => "steps[" ++ toString n ++ "]: id must not be empty"
  | unknownType n id type =>
    "steps[" ++ toString n ++ "] (" ++ id ++ "): unknown step type '" ++ type ++ "'"
  | misfit n id why => "steps[" ++ toString n ++ "] (" ++ id ++ "): " ++ why.message

end StepProblem

/-- The step of an entry. A type that is not known is a problem unless such
steps are allowed. -/
def StepEntry.check (allowUnknown : Bool) (position : Nat) (e : StepEntry) :
    Except StepProblem Step :=
  if Text.blank e.id then .error (.blankId position)
  else
    match StepKind.parse e.type e.params with
    | .ok (some kind) => .ok ⟨e.id, e.continueOnError, kind⟩
    | .ok none =>
      if allowUnknown then .ok ⟨e.id, e.continueOnError, .unsupported e.type⟩
      else .error (.unknownType position e.id e.type)
    | .error why => .error (.misfit position e.id why)

/-- The problems and the steps of entries counted from a position. -/
def checkSteps (allowUnknown : Bool) : Nat → List StepEntry → List StepProblem × List Step
  | _, [] => ([], [])
  | position, e :: rest =>
    let (problems, steps) := checkSteps allowUnknown (position + 1) rest
    match e.check allowUnknown position with
    | .ok step => (problems, step :: steps)
    | .error problem => (problem :: problems, steps)

/-- The wording by which an unknown type is recognised among the problems. -/
def unknownTypeWording : String := "unknown step type"

def typesHint : String := "Supported step types: " ++ Text.join ", " StepKind.types

def problemsError (label : String) (problems : List StepProblem) : Error :=
  let texts := problems.map StepProblem.text
  let e := Error.ofCause (.configSchema label (Text.join "; " texts))
  if texts.any (Text.contains unknownTypeWording) then e.withHint typesHint else e

namespace PipelineConfig

def ofJson (label : String) (allowUnknown : Bool) (document : Json) :
    Except Error PipelineConfig :=
  match PipelineEntry.ofJson document with
  | .error why => .error (Cause.configSchema label why.message)
  | .ok entry =>
    match checkSteps allowUnknown 0 entry.steps with
    | ([], steps) => .ok ⟨entry.version, entry.inputs, entry.vars, steps⟩
    | (problems, _) => .error (problemsError label problems)

def parse (text : String) (format : Format) (label : String) (allowUnknown : Bool) :
    Except Error PipelineConfig :=
  match format.read text with
  | none => .error (Cause.configContent label format.label (some notWellFormed))
  | some document => ofJson label allowUnknown document

end PipelineConfig

/-! ## The places of steps -/

structure StepIndex where
  positions : List (String × Nat)

namespace StepIndex

def position? (index : StepIndex) (id : String) : Option Nat := index.positions.lookup id

def size (index : StepIndex) : Nat := index.positions.length

def isEmpty (index : StepIndex) : Bool := index.positions.isEmpty

/-- Adds steps from a position on, unless an identifier comes again. -/
def extend (index : StepIndex) : Nat → List Step → Except Error StepIndex
  | _, [] => .ok index
  | position, step :: rest =>
    match index.position? step.id with
    | some first => .error (Cause.duplicateStep step.id first position)
    | none => extend ⟨index.positions ++ [(step.id, position)]⟩ (position + 1) rest

def build (steps : List Step) : Except Error StepIndex := extend ⟨[]⟩ 0 steps

end StepIndex

structure LoadedPipeline where
  path : String
  config : PipelineConfig
  index : StepIndex

end OrgPipeline
