import OrgPipeline.Error
import OrgPipeline.Text.Blank
import OrgPipeline.Decimal.Reader

/-!
# Allowances for bulk jobs

A bulk job answers with its batches, or with a single one. Failed batches and
failed records are counted and held against two allowances; an absent allowance
leaves its count unchecked.
-/

set_option autoImplicit false

namespace OrgPipeline

structure BulkAllowance where
  failedBatches : Option Float
  failedRecords : Option Float

namespace Bulk

/-- The batches of a result: a single value is a batch of its own. -/
def batches : Json → List Json
  | .arr items => items
  | v => [v]

def isFailed (batch : Json) : Bool :=
  match batch.get? "state" with
  | some (.str s) => s == "Failed"
  | _ => false

def countOf : Json → Float
  | .num n => n.toFloat
  | .str s => (Decimal.read (Text.trim s)).getD (Decimal.ofNat 0)
  | _ => Decimal.ofNat 0

def failedBatches (result : Json) : Float :=
  Decimal.ofNat ((batches result).filter isFailed).length

/-- The sum of no counts is the negative zero, which adds nothing to any. -/
def emptySum : Float := Decimal.signed true 0

def failedRecords (result : Json) : Float :=
  (((batches result).filterMap fun b => b.get? "numberRecordsFailed").map countOf).foldl
    (· + ·) emptySum

def problem (what : String) (count : Float) (limit : Option Float) : List String :=
  match limit with
  | some l =>
    if l < count then
      [Decimal.plainLayout.text count ++ " failed " ++ what ++ ", allowed " ++
        Decimal.plainLayout.text l]
    else []
  | none => []

def problems (result : Json) (allowance : BulkAllowance) : List String :=
  problem "batch(es)" (failedBatches result) allowance.failedBatches ++
    problem "record(s)" (failedRecords result) allowance.failedRecords

def failureName : String := "BulkFailureAllowanceExceeded"

/-- Accepts a result within the allowances; otherwise the error carries it. -/
def check (operation : String) (result : Json) (allowance : BulkAllowance) :
    Except Error Unit :=
  match problems result allowance with
  | [] => .ok ()
  | ps =>
    .error (Cause.commandFailed
      ("Bulk " ++ operation ++ " exceeded failure allowance: " ++ Text.join ", " ps)
      { PlatformFailure.ofName failureName with
        command := some ("force:data:bulk:" ++ operation), summary := some result })

end Bulk
end OrgPipeline
