import OrgPipeline.World.Program
import OrgPipeline.Json.Outline
import OrgPipeline.Schema

/-!
# The envelope of an answer

The platform's tool answers with an envelope: a status with a result, or with
what is known about a failure. The envelope is on standard output or, failing
that, on standard error. An answer counts as a success only if the program
succeeded and its envelope has status zero.
-/

set_option autoImplicit false

namespace OrgPipeline.Platform

structure Envelope where
  status : Int
  result : Json
  name : Option String
  message : Option String
  stack : Option String
  warnings : List String
  data : Option Json

namespace Envelope

def statusCode (v : Json) : Fit Int :=
  match v with
  | .num (.int n) =>
    if n ≤ Json.maxSigned then .ok n else .error (.invalidType v "a smaller number")
  | v => .error (.invalidType v "an integer")

def schema : Schema Envelope :=
  mk <$> .withDefault "status" statusCode 0 <*>
    .withDefault "result" Fit.anything .null <*>
    .optional "name" Fit.text <*>
    .optional "message" Fit.text <*>
    .optional "stack" Fit.text <*>
    .withDefault "warnings" (Fit.list Fit.text) [] <*>
    .optional "data" Fit.anything

/-- An envelope from its members; each may come only once. -/
def ofMembers? (members : Json.Members) : Option Envelope :=
  if (members.map Prod.fst).Nodup then (schema.readMembers false members).toOption else none

/-- The envelope that a text consists of. It may also be an array of all its
fields. Members it does not know are passed over. -/
def read (text : String) : Option Envelope :=
  match Json.skipSpace text.toList with
  | '[' :: _ => (Json.read text).bind fun v => (schema.read false "Envelope" v).toOption
  | cs => (Json.readMembers schema.names.contains cs).bind ofMembers?

def ofOutput? (o : ProgramOutput) : Option Envelope :=
  match read (Text.trim o.stdout) with
  | some envelope => some envelope
  | none => read (Text.trim o.stderr)

def defaultName : String := "SfdxError"

def failure (subcommand : String) (exitCode : Int) (e : Envelope) : Error :=
  Cause.commandFailed
    (e.message.getD (subcommand ++ " exited with status " ++ toString exitCode))
    { name := e.name.getD defaultName
      command := some subcommand
      stack := e.stack
      logs := if e.result.isNull then none else some e.result
      summary := e.data }

def bareFailure (name subcommand : String) (o : ProgramOutput) : Error :=
  Cause.commandFailed (subcommand ++ " failed: " ++ o.errorText)
    { PlatformFailure.ofName name with command := some subcommand }

def answer (subcommand : String) (o : ProgramOutput) : Except Error Json :=
  match ofOutput? o with
  | some e =>
    if e.status = 0 ∧ o.success then .ok e.result
    else .error (failure subcommand o.exitCode e)
  | none =>
    if o.success then
      .error (Cause.json notWellFormed (some ("parse " ++ subcommand ++ " output")))
    else .error (bareFailure "CommandFailed" subcommand o)

end Envelope
end OrgPipeline.Platform
