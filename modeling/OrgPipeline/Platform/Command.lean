import OrgPipeline.Platform.TestLevel
import OrgPipeline.Json.Basic

/-!
# Commands to the platform

What a step may ask of the platform, with all parameters resolved. A platform
answers each command with a value or an error.
-/

set_option autoImplicit false

namespace OrgPipeline.Platform

structure Deployment where
  org : String
  level : DeployTestLevel
  checkOnly : Bool
  dir : Option String
  zip : Option String
  deriving DecidableEq, Repr

structure ScratchOrg where
  name : String
  noAncestors : Bool
  definitionFile : String
  devHub : String
  days : Float
  adminEmail : Option String

inductive Command where
  | storeAccessToken (name instanceUrl token : String)
  | storeSfdxUrl (name file : String)
  | listOrgs
  | logout (org : String)
  | executeApex (org codeFile : String)
  | runTests (org outputDir : String) (level : ApexTestLevel)
  | bulkDelete (org csvFile object : String)
  | bulkUpsert (org csvFile externalId object : String)
  | importTree (org planFile : String)
  /-- The rows go to a file, under another header if one is given. -/
  | queryCsv (org csvFile query : String) (header : Option String)
  /-- Queues a deployment; the answer names the job. -/
  | deploy (deployment : Deployment)
  | deployReport (org job : String) (waitMinutes : Nat)
  | retrieve (org targetDir : String) (manifest : Option String)
      (packages : Option (List String))
  | createScratchOrg (org : ScratchOrg)
  | deleteOrg (org devHub : String)
  | displayOrg (org : String)
  | installPackage (org package : String)
  | pushSource (org : String) (forceOverwrite : Bool)
  | convertSource (outputDir : String) (sources : List String)

end OrgPipeline.Platform
