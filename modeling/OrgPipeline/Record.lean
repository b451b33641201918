import OrgPipeline.Error

/-!
# Step records

What a step leaves behind for later steps: its payload, if it had one, or the
failure it ended in.
-/

set_option autoImplicit false

namespace OrgPipeline

structure StepFailure where
  name : String
  message : String
  stack : Option String
  logs : Option Json
  summary : Option Json

namespace StepFailure

/-- Details worth keeping: an object with at least one member. -/
def detailsSummary : Json → Option Json
  | .obj [] => none
  | .obj members => some (.obj members)
  | _ => none

/-- A failure of the platform keeps the platform's own name for it; any other
goes by its code and keeps its details. -/
def ofError (e : Error) : StepFailure :=
  match e.platformFailure? with
  | some f => ⟨f.name, e.message, f.stack, f.logs, f.summary⟩
  | none => ⟨e.code.text, e.message, none, none, detailsSummary e.details⟩

def toJson (f : StepFailure) : Json :=
  .object ([("name", .str f.name), ("message", .str f.message)] ++
    Json.member? "stack" (f.stack.map .str) ++ Json.member? "logs" f.logs ++
    Json.member? "summary" f.summary)

end StepFailure

inductive StepRecord where
  | success (outputs : Option Json)
  | failure (error : StepFailure)

namespace StepRecord

def isSuccess : StepRecord → Bool
  | success _ => true
  | failure _ => false

def ofResult : Except Error (Option Json) → StepRecord
  | .ok payload => success payload
  | .error e => failure (.ofError e)

def toJson : StepRecord → Json
  | success outputs => .object ([("success", .bool true)] ++ Json.member? "outputs" outputs)
  | failure error => .object [("success", .bool false), ("error", error.toJson)]

end StepRecord
end OrgPipeline
