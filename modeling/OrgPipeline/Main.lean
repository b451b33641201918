import OrgPipeline.CommandLine.Commands
import OrgPipeline.Json.Reader
import OrgPipeline.World.Description

/-!
# The program

Carries out the words of its command line in the world described by one line of
standard input, and prints what a run in that world prints.
-/

set_option autoImplicit false

open OrgPipeline

def main (words : List String) : IO UInt32 := do
  let line ← (← IO.getStdin).getLine
  let description := (Json.read line).getD .null
  let env := Description.environment description
  let programs := [Platform.Sfdx.resolveBin env none, VersionControl.program]
  let world := Description.world programs description
  let (leave, _) := CommandLine.run env words world
  IO.print leave.stdout
  return UInt32.ofNat leave.code
