import OrgPipeline.Json.Basic

/-!
# Errors

An error is a cause with the hints that go with it. Code, message and details
are functions of the cause, and so is the exit code of a command that ends in
it. What the platform reports about a failed command is kept as it came.
-/

set_option autoImplicit false

namespace OrgPipeline

structure PlatformFailure where
  name : String
  command : Option String
  stack : Option String
  logs : Option Json
  summary : Option Json

namespace PlatformFailure

def ofName (name : String) : PlatformFailure := ⟨name, none, none, none, none⟩

def toJson (f : PlatformFailure) : Json :=
  .object ([("name", .str f.name)] ++ Json.member? "command" (f.command.map .str) ++
    Json.member? "stack" (f.stack.map .str) ++ Json.member? "logs" f.logs ++
    Json.member? "summary" f.summary)

/-- A null is as good as no value when a failure is read back. -/
def nonNull : Option Json → Option Json
  | some .null => none
  | v => v

def readBack (f : PlatformFailure) : PlatformFailure :=
  { f with logs := nonNull f.logs, summary := nonNull f.summary }

end PlatformFailure

inductive Cause where
  | configNotFound (path : String)
  | configContent (path format : String) (problem : Option String)
  | configFileType (path wanted : String)
  | configSchema (path problems : String)
  | duplicateStep (id : String) (first second : Nat)
  | notLoaded
  | commandFailed (message : String) (failure : PlatformFailure)
  | deployFailed (message : String) (summary : Option Json)
  | gitFailed (message : String)
  | manifestInvalid (path problem : String)
  | invalidArgument (field problem : String) (id : Option String) (tried : Option (List String))
  | io (problem : String) (context : Option String)
  | json (problem : String) (context : Option String)
  | unexpected (problem : String)

inductive ErrorCode where
  | configFileNotFound
  | configInvalidContent
  | configInvalidFileType
  | configInvalidSchema
  | configDuplicateStepId
  | engineNotLoaded
  | platformCommandFailed
  | platformDeployFailed
  | gitCommandFailed
  | manifestInvalidXml
  | validationInvalidArgument
  | internalIo
  | internalJson
  | internalUnexpected
  deriving DecidableEq, Repr

namespace ErrorCode

def text : ErrorCode → String
  | configFileNotFound => "config.file_not_found"
  | configInvalidContent => "config.invalid_content"
  | configInvalidFileType => "config.invalid_file_type"
  | configInvalidSchema => "config.invalid_schema"
  | configDuplicateStepId => "config.duplicate_step_id"
  | engineNotLoaded => "engine.not_loaded"
  | platformCommandFailed => "platform.command_failed"
  | platformDeployFailed => "platform.deploy_failed"
  | gitCommandFailed => "git.command_failed"
  | manifestInvalidXml => "manifest.invalid_xml"
  | validationInvalidArgument => "validation.invalid_argument"
  | internalIo => "internal.io_error"
  | internalJson => "internal.json_error"
  | internalUnexpected => "internal.unexpected"

/-- Two for what the user gave, three for a missing pipeline, twenty for the
platform and the version control, one for the rest. -/
def exitCode : ErrorCode → Nat
  | configFileNotFound | configInvalidContent | configInvalidFileType | configInvalidSchema
  | configDuplicateStepId | manifestInvalidXml | validationInvalidArgument => 2
  | engineNotLoaded => 3
  | platformCommandFailed | platformDeployFailed | gitCommandFailed => 20
  | internalIo | internalJson | internalUnexpected => 1

end ErrorCode

/-- An error as it is returned: its cause, hints for the user, and whether
another attempt may help. -/
structure Error where
  cause : Cause
  hints : List String
  retryable : Option Bool

def notWellFormed : String := "not well formed"

def deployFailureName : String := "MetadataDeployError"

namespace Cause

def code : Cause → ErrorCode
  | configNotFound _ => .configFileNotFound
  | configContent _ _ _ => .configInvalidContent
  | configFileType _ _ => .configInvalidFileType
  | configSchema _ _ => .configInvalidSchema
  | duplicateStep _ _ _ => .configDuplicateStepId
  | notLoaded => .engineNotLoaded
  | commandFailed _ _ => .platformCommandFailed
  | deployFailed _ _ => .platformDeployFailed
  | gitFailed _ => .gitCommandFailed
  | manifestInvalid _ _ => .manifestInvalidXml
  | invalidArgument _ _ _ _ => .validationInvalidArgument
  | io _ _ => .internalIo
  | json _ _ => .internalJson
  | unexpected _ => .internalUnexpected

def message : Cause → String
  | configNotFound path => "File '" ++ path ++ "' is not exist."
  | configContent path format _ =>
    "File '" ++ path ++ "' must contain valid " ++ format ++ " data."
  | configFileType path wanted => "File '" ++ path ++ "' must a " ++ wanted ++ " file."
  | configSchema path problems =>
    "File '" ++ path ++ "' has incorrect schema. Errors: " ++ problems
  | duplicateStep id first second =>
    "Steps #" ++ toString first ++ " and #" ++ toString second ++ " has duplicated ID: '" ++
      id ++ "'"
  | notLoaded => "CI Settings are not loaded. load() must be called at the first."
  | commandFailed message _ => message
  | deployFailed message _ => message
  | gitFailed message => message
  | manifestInvalid path _ => "File '" ++ path ++ "' must contain valid XML data."
  | invalidArgument _ _ _ _ => "Invalid argument"
  | io _ _ => "IO error"
  | json _ _ => "JSON error"
  | unexpected _ => "Unexpected error"

def platformFailure? : Cause → Option PlatformFailure
  | commandFailed _ failure => some failure
  | deployFailed _ summary => some { PlatformFailure.ofName deployFailureName with summary }
  | _ => none

def problemDetails (problem : String) (context : Option String) : Json :=
  .object ([("error", .str problem)] ++ Json.member? "context" (context.map .str))

def details (c : Cause) : Json :=
  match c with
  | configNotFound path => .object [("path", .str path)]
  | configContent path format problem =>
    .object ([("path", .str path), ("expected", .str format)] ++
      Json.member? "error" (problem.map .str))
  | configFileType path wanted => .object [("path", .str path), ("expected", .str wanted)]
  | configSchema path problems => .object [("path", .str path), ("error", .str problems)]
  | duplicateStep id first second =>
    .object [("id", .str id), ("first", .nat first), ("second", .nat second)]
  | notLoaded => .object []
  | commandFailed _ failure => failure.toJson
  | deployFailed _ summary =>
    PlatformFailure.toJson { PlatformFailure.ofName deployFailureName with summary }
  | gitFailed _ => .object []
  | manifestInvalid path problem =>
    .object [("path", .str path), ("expected", .str "package.xml"), ("error", .str problem)]
  | invalidArgument field problem id tried =>
    .object ([("field", .str field), ("problem", .str problem)] ++
      Json.member? "id" (id.map .str) ++ Json.member? "tried" (tried.map Json.strings))
  | io problem context => problemDetails problem context
  | json problem context => problemDetails problem context
  | unexpected problem => .object [("error", .str problem)]

end Cause

namespace Error

/-- A file type that is not supported comes with advice. -/
def hintsOf : Cause → List String
  | .configFileType _ _ => ["Use a .yml, .yaml or .json file"]
  | _ => []

def ofCause (c : Cause) : Error := ⟨c, hintsOf c, none⟩

instance : Coe Cause Error := ⟨ofCause⟩

def withHint (e : Error) (hint : String) : Error := { e with hints := e.hints ++ [hint] }

def withRetryable (e : Error) (retryable : Bool) : Error :=
  { e with retryable := some retryable }

def code (e : Error) : ErrorCode := e.cause.code

def message (e : Error) : String := e.cause.message

def details (e : Error) : Json := e.cause.details

def exitCode (e : Error) : Nat := e.code.exitCode

def platformFailure? (e : Error) : Option PlatformFailure :=
  e.cause.platformFailure?.map PlatformFailure.readBack

def hintsJson (e : Error) : Json := .arr (e.hints.map fun h => .object [("message", .str h)])

end Error
end OrgPipeline
