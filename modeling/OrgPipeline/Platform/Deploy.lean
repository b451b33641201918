import OrgPipeline.Platform.Command
import OrgPipeline.World.Basic
import OrgPipeline.Json.Reader

/-!
# Deployments

A deployment is queued, and then its report is asked for until it is decisive: an
error other than the client's timeout, or a report of a finished job. There are
only so many attempts. The value of a deployment is the summary of its report;
an unsuccessful one fails with the summary and the failures reported.
-/

set_option autoImplicit false

namespace OrgPipeline.Platform

namespace DeployReport

/-- A count given as an integer or as a text of digits, a plus sign allowed. -/
def countOf : Json → Option Nat
  | .num (.int n) => if 0 ≤ n then some n.toNat else none
  | .str s =>
    let digits := match s.toList with
      | '+' :: rest => rest
      | cs => cs
    if digits.isEmpty || !digits.all Decimal.isDigit then none
    else
      let n := Decimal.valueOf digits
      if n ≤ Json.maxUnsigned then some n else none
  | _ => none

def countNames : List String :=
  ["numberComponentErrors", "numberComponentsDeployed", "numberComponentsTotal",
    "numberTestErrors", "numberTestsCompleted", "numberTestsTotal"]

def textMember (report : Json) (name : String) : String × Json :=
  (name, .orNull (((report.get? name).bind Json.asString?).map .str))

def countMember (report : Json) (name : String) : String × Json :=
  (name, .orNull (((report.get? name).bind countOf).map .nat))

/-- The eight members of a summary; what the report does not say is null. -/
def summary (report : Json) : Json.Members :=
  textMember report "id" :: textMember report "status" :: countNames.map (countMember report)

def failures (report : Json) : Json :=
  let details := report.get? "details"
  let tests := details.bind (·.get? "runTestResult")
  .object [("componentFailures", .orNull (details.bind (·.get? "componentFailures"))),
    ("codeCoverageWarnings", .orNull (tests.bind (·.get? "codeCoverageWarnings"))),
    ("testFailures", .orNull (tests.bind (·.get? "failures")))]

def isDone (report : Json) : Bool := (report.get? "done").any Json.isTrue

def isSuccess (report : Json) : Bool := (report.get? "success").any Json.isTrue

def outcome (report : Json) : Except Error Json :=
  if isSuccess report then .ok (.object (summary report))
  else
    .error (Cause.deployFailed "Deployment error"
      (some (.object (summary report ++ [("details", failures report)]))))

end DeployReport

namespace Deployment

def attempts : Nat := 3

def reportMinutes : Nat := 30

def timeoutWording : String := "The client has timed out"

def isTimeout (e : Error) : Bool := Text.contains timeoutWording e.message

def job? (queued : Json) : Option String :=
  ((queued.get? "id").bind Json.asString?).filter (· ≠ "")

def exhausted : Error :=
  Cause.deployFailed
    (toString attempts ++ " attempts to get deployment report was accidentally failed.")
    (some (.obj []))

/-- Asks for the report at most so many times. -/
def awaitReport (platform : Command → Action Json) (org job : String) : Nat → Action Json
  | 0 => throw exhausted
  | n + 1 => do
    match ← (platform (.deployReport org job reportMinutes)).attempt with
    | .ok report =>
      if DeployReport.isDone report then Action.ofExcept (DeployReport.outcome report)
      else awaitReport platform org job n
    | .error e => if isTimeout e then awaitReport platform org job n else throw e

def run (platform : Command → Action Json) (d : Deployment) : Action Json := do
  let queued ← platform (.deploy d)
  match job? queued with
  | some job => awaitReport platform d.org job attempts
  | none => throw (Cause.deployFailed "Queueing deployment error" (some queued) : Error)

end Deployment
end OrgPipeline.Platform
