import OrgPipeline.Error
import OrgPipeline.Json.Printer

/-!
# Responses

Every command prints one envelope: whether it succeeded, and its data or its
error. The exit code is zero exactly for a success.
-/

set_option autoImplicit false

namespace OrgPipeline.CommandLine

namespace Response

/-- Code, message and details of an error; hints and advice on another attempt
only if there are any. -/
def errorJson (e : Error) : Json :=
  .obj ([("code", .str e.code.text), ("message", .str e.message), ("details", e.details)] ++
    (if e.hints.isEmpty then [] else [("hints", e.hintsJson)]) ++
    Json.member? "retryable" (e.retryable.map .bool))

def envelope : Except Error Json → Json
  | .ok data => .obj [("success", .bool true), ("data", data)]
  | .error e => .obj [("success", .bool false), ("error", errorJson e)]

def text (r : Except Error Json) : String := Json.print (envelope r) ++ "\n"

def exitCode : Except Error Json → Nat
  | .ok _ => 0
  | .error e => e.exitCode

end Response
end OrgPipeline.CommandLine
