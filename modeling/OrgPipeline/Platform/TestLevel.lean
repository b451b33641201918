import OrgPipeline.Schema

/-!
# Test levels

Which tests a test run or a deployment executes.
-/

set_option autoImplicit false

namespace OrgPipeline

inductive ApexTestLevel where
  | runLocalTests
  | runAllTestsInOrg
  | runSpecifiedTests
  deriving DecidableEq, Repr

namespace ApexTestLevel

def text : ApexTestLevel → String
  | runLocalTests => "RunLocalTests"
  | runAllTestsInOrg => "RunAllTestsInOrg"
  | runSpecifiedTests => "RunSpecifiedTests"

def declared : List (String × ApexTestLevel) :=
  [("RunLocalTests", runLocalTests), ("RunAllTestsInOrg", runAllTestsInOrg),
    ("RunSpecifiedTests", runSpecifiedTests)]

def ofJson : Json → Fit ApexTestLevel := Fit.variant declared

def toJson (l : ApexTestLevel) : Json := .str l.text

end ApexTestLevel

inductive DeployTestLevel where
  | noTestRun
  | runSpecifiedTests
  | runLocalTests
  | runAllTestsInOrg
  deriving DecidableEq, Repr

namespace DeployTestLevel

def text : DeployTestLevel → String
  | noTestRun => "NoTestRun"
  | runSpecifiedTests => "RunSpecifiedTests"
  | runLocalTests => "RunLocalTests"
  | runAllTestsInOrg => "RunAllTestsInOrg"

def declared : List (String × DeployTestLevel) :=
  [("NoTestRun", noTestRun), ("RunSpecifiedTests", runSpecifiedTests),
    ("RunLocalTests", runLocalTests), ("RunAllTestsInOrg", runAllTestsInOrg)]

def ofJson : Json → Fit DeployTestLevel := Fit.variant declared

def toJson (l : DeployTestLevel) : Json := .str l.text

end DeployTestLevel
end OrgPipeline
