import OrgPipeline.Schema

/-!
# Parameters

A parameter is a boolean, a number or a text. Texts may be references;
booleans and numbers stand for themselves.
-/

set_option autoImplicit false

namespace OrgPipeline

inductive Param where
  | bool (b : Bool)
  | number (x : Float)
  | text (s : String)

namespace Param

/-- A number as plain text. Zero has no sign. -/
def numberText (x : Float) : String :=
  if x == Decimal.ofNat 0 then "0" else Decimal.plainLayout.text x

def boolText (b : Bool) : String := if b then "true" else "false"

def scalar : Param → String
  | bool b => boolText b
  | number x => numberText x
  | text s => s

def asText? : Param → Option String
  | text s => some s
  | _ => none

/-- A number that is not finite has no value in JSON. -/
def toJson : Param → Json
  | bool b => .bool b
  | number x => if x.isFinite then .float x else .null
  | text s => .str s

def ofJson : Json → Fit Param
  | .bool b => .ok (.bool b)
  | .num n => .ok (.number n.toFloat)
  | .str s => .ok (.text s)
  | _ => .error (.noAlternative "ParamValue")

end Param

instance : Coe String Param := ⟨Param.text⟩

end OrgPipeline
