import OrgPipeline.Json.Basic

/-!
# Events of a run

A step starts, and then it finishes or fails. A failure that is tolerated
counts as a finish.
-/

set_option autoImplicit false

namespace OrgPipeline

inductive Event where
  | stepStart (id : String)
  | stepFinish
  | stepError (message : String)
  deriving DecidableEq, Repr

namespace Event

def toJson : Event → Json
  | stepStart id => .object [("event", .str "step_start"), ("stepId", .str id)]
  | stepFinish => .object [("event", .str "step_finish")]
  | stepError message => .object [("event", .str "step_error"), ("message", .str message)]

end Event
end OrgPipeline
