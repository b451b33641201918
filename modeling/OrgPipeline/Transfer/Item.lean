import OrgPipeline.Schema

/-!
# Names on two sides

An object or field is called the same in both orgs, or it has a name for each.
-/

set_option autoImplicit false

namespace OrgPipeline

inductive TransferItem where
  | same (name : String)
  | mapped (source target : String)
  deriving DecidableEq, Repr

inductive Side where
  | source
  | target
  deriving DecidableEq, Repr

namespace TransferItem

def name : TransferItem → Side → String
  | same n, _ => n
  | mapped s _, .source => s
  | mapped _ t, .target => t

def names (side : Side) (items : List TransferItem) : List String :=
  items.map fun i => i.name side

def toJson : TransferItem → Json
  | same n => .str n
  | mapped s t => .object [("source", .str s), ("target", .str t)]

def ofMembers? (members : Json.Members) : Option TransferItem := do
  let s ← (← Json.lookup "source" members).asString?
  let t ← (← Json.lookup "target" members).asString?
  some (mapped s t)

def ofJson (v : Json) : Fit TransferItem :=
  let fitting := match v with
    | .str n => some (same n)
    | .obj members => ofMembers? members
    | _ => none
  match fitting with
  | some item => .ok item
  | none => .error (.noAlternative "SObjectItem")

end TransferItem
end OrgPipeline
