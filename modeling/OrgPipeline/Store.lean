import OrgPipeline.Record
import OrgPipeline.Reference
import OrgPipeline.Environment
import OrgPipeline.Declaration
import OrgPipeline.Table
import OrgPipeline.Json.Path
import OrgPipeline.Text.Lowercase
import OrgPipeline.Decimal.Reader

/-!
# The store of a run

The inputs, variables and step records of one run, and the diagnostics of every
parameter that fell back to its default. The first record of a step stays.
-/

set_option autoImplicit false

namespace OrgPipeline

/-- Why a parameter fell back to its default. -/
inductive DiagnosticKind where
  | unknownNamespace
  | unresolved
  | notANumber
  | notABoolean
  deriving DecidableEq, Repr

def DiagnosticKind.text : DiagnosticKind → String
  | unknownNamespace => "unknown_namespace"
  | unresolved => "unresolved"
  | notANumber => "not_a_number"
  | notABoolean => "not_a_boolean"

structure Diagnostic where
  expression : String
  kind : DiagnosticKind
  deriving DecidableEq, Repr

def Diagnostic.toJson (d : Diagnostic) : Json :=
  .object [("expression", .str d.expression), ("kind", .str d.kind.text)]

abbrev Outputs := Table StepRecord

def Outputs.toJson (outputs : Outputs) : Json :=
  .object (outputs.toList.map fun (id, r) => (id, r.toJson))

structure Store where
  inputs : Table (Option String)
  vars : Table (Option String)
  outputs : Outputs
  diagnostics : List Diagnostic

abbrev Binding (α : Type) := StateM Store α

namespace Store

def empty : Store := ⟨.empty, .empty, .empty, []⟩

def note (expression : String) (kind : DiagnosticKind) : Binding Unit :=
  modify fun s => { s with diagnostics := s.diagnostics ++ [⟨expression, kind⟩] }

/-- The value a reference denotes; null where nothing scalar is found. -/
def lookup (env : Environment) (s : Store) : Reference → Option String
  | .env name => env name
  | .input id => (s.inputs.get? id).join
  | .variable id => (s.vars.get? id).join
  | .step _ [] => none
  | .step id path => do
    let record ← s.outputs.get? id
    let v ← record.toJson.descend path
    v.scalar?
  | .unknown _ => none

/-- The value of a text: itself for a literal, else what it refers to. -/
def resolve (env : Environment) (raw : String) : Binding (Option String) := do
  match Reference.parse raw with
  | none => return some raw
  | some (.unknown _) =>
    note raw .unknownNamespace
    return none
  | some reference => return (← get).lookup env reference

/-- A text parameter; empty by default. -/
def textValue (env : Environment) (raw : String) : Binding String := do
  match ← resolve env raw with
  | some value => return value
  | none =>
    note raw .unresolved
    return ""

def scalarOf (env : Environment) : Param → Binding (Option String)
  | .text s => resolve env s
  | other => return some other.scalar

def numberIn (text : Option String) : Option Float := do
  let t ← text
  let x ← Decimal.read (Text.trim t)
  if x.isNaN then none else some x

/-- A number parameter; zero by default. -/
def numberValue (env : Environment) (raw : Param) : Binding Float := do
  match raw with
  | .number x => return x
  | _ =>
    match numberIn (← scalarOf env raw) with
    | some x => return x
    | none =>
      note raw.scalar .notANumber
      return Decimal.ofNat 0

def boolIn (text : Option String) : Option Bool := do
  let t := Text.lowercase (← text)
  if t = "true" then some true else if t = "false" then some false else none

/-- A boolean parameter; false by default. -/
def boolValue (env : Environment) (raw : Param) : Binding Bool := do
  match raw with
  | .bool b => return b
  | _ =>
    match boolIn (← scalarOf env raw) with
    | some b => return b
    | none =>
      note raw.scalar .notABoolean
      return false

def optionalNumber (env : Environment) (raw : Option Param) : Binding (Option Float) :=
  match raw with
  | some p => return some (← numberValue env p)
  | none => return none

/-! ## Setting up and recording -/

/-- A supplied value as text; null, arrays and objects have none. -/
def suppliedScalar (env : Environment) : Json → Binding (Option String)
  | .str s => resolve env s
  | v => return v.scalar?

/-- Stores an input: the supplied value, else the declared default. -/
def setInput (env : Environment) (input : InputDeclaration) (supplied : Option Json) :
    Binding Unit := do
  let value ← match supplied with
    | some v => suppliedScalar env v
    | none =>
      match input.default with
      | some p => scalarOf env p
      | none => pure none
  modify fun s => { s with inputs := s.inputs.insert input.id value }

def setVariable (env : Environment) (v : VariableDeclaration) : Binding Unit := do
  let value ← scalarOf env v.value
  modify fun s => { s with vars := s.vars.insert v.id value }

/-- Stores the variables in the order of their declaration, so that one that
refers to a later one sees null. -/
def setVariables (env : Environment) : List VariableDeclaration → Binding Unit
  | [] => return ()
  | v :: rest => do
    setVariable env v
    setVariables env rest

/-- Records how a step ended, unless the step has a record already. -/
def setOutput (s : Store) (id : String) (record : StepRecord) : Store :=
  if s.outputs.contains id then s
  else { s with outputs := s.outputs.insert id record }

end Store
end OrgPipeline
