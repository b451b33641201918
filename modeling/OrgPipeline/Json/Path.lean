import OrgPipeline.Json.Basic
import OrgPipeline.Decimal.Reader

/-!
# Paths into a value

A path names members of objects by key and elements of arrays by their index,
written in decimal with an optional plus sign.
-/

set_option autoImplicit false

namespace OrgPipeline.Json

/-- One more than the largest index a text can denote. -/
def indexBound : Nat := Decimal.twoTo 64

def digitsIndex? (digits : List Char) : Option Nat :=
  if digits.isEmpty || !digits.all Decimal.isDigit then none
  else
    let n := Decimal.valueOf digits
    if n < indexBound then some n else none

def index? (segment : String) : Option Nat :=
  match segment.toList with
  | '+' :: digits => digitsIndex? digits
  | digits => digitsIndex? digits

def child? (v : Json) (segment : String) : Option Json :=
  match v with
  | .obj members => lookup segment members
  | .arr items => (index? segment).bind fun i => items[i]?
  | _ => none

def descend (v : Json) : List String → Option Json
  | [] => some v
  | segment :: rest => (child? v segment).bind fun w => w.descend rest

end OrgPipeline.Json
