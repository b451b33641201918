import OrgPipeline.Step.Basic
import OrgPipeline.Store
import OrgPipeline.ChangeSet.Create
import OrgPipeline.Platform.Deploy
import OrgPipeline.Transfer.Basic

/-!
# Carrying out a step

The parameters of a step are resolved first, in a fixed order; what is left is
a task, which is carried out without the store. Only a query leaves no payload.
-/

set_option autoImplicit false

namespace OrgPipeline

/-- A step with all parameters resolved. -/
inductive Task where
  | changeSet (request : ChangeSet.Request)
  | transfer (transfer : Transfer)
  | command (command : Platform.Command)
  | bulk (operation : String) (command : Platform.Command) (allowance : BulkAllowance)
  /-- A command without a payload. -/
  | query (command : Platform.Command)
  | deploy (deployment : Platform.Deployment)
  | unsupported (type : String)

namespace Task

def checked (platform : Platform.Command → Action Json) (c : Platform.Command)
    (check : Json → Except Error Unit) : Action Json := do
  let result ← platform c
  Action.ofExcept (check result)
  return result

def perform (tools : Tools) (directory : String) : Task → Action (Option Json)
  | changeSet r => return some (← ChangeSet.create tools directory r).toJson
  | transfer t => return some (← t.run tools.platform directory)
  | command c => return some (← tools.platform c)
  | bulk operation c allowance =>
    return some (← checked tools.platform c fun result => Bulk.check operation result allowance)
  | query c => do
    let _ ← tools.platform c
    return none
  | deploy d => return some (← d.run tools.platform)
  | unsupported type =>
    throw (Cause.unexpected ("step type '" ++ type ++ "' has no handler") : Error)

end Task

namespace Store

/-- A switch; off where it is not given. -/
def switch (env : Environment) : Option Param → Binding Bool
  | some p => boolValue env p
  | none => return false

/-- A text that may be left out; empty counts as left out. -/
def optionalText (env : Environment) : Option String → Binding (Option String)
  | some raw => do
    let value ← textValue env raw
    return if value = "" then none else some value
  | none => return none

def texts (env : Environment) : List String → Binding (List String)
  | [] => return []
  | raw :: rest => return (← textValue env raw) :: (← texts env rest)

def optionalTexts (env : Environment) : Option (List String) → Binding (Option (List String))
  | some raws => return some (← texts env raws)
  | none => return none

def item (env : Environment) : TransferItem → Binding TransferItem
  | .same name => return .same (← textValue env name)
  | .mapped source target => return .mapped (← textValue env source) (← textValue env target)

def items (env : Environment) : List TransferItem → Binding (List TransferItem)
  | [] => return []
  | raw :: rest => return (← item env raw) :: (← items env rest)

def allowance (env : Environment) (batches records : Option Param) : Binding BulkAllowance :=
  return ⟨← optionalNumber env batches, ← optionalNumber env records⟩

end Store

namespace StepKind

open Store

def defaultDays : Float := Decimal.ofNat 1

def ofChangeSet (env : Environment) (p : ChangeSetParams) : Binding Task := do
  let head ← textValue env p.headSha
  let base ← textValue env p.baseSha
  let dir ← textValue env p.dir
  let createRevert ← switch env p.createRevert
  let revertDir ← optionalText env p.revertDir
  return .changeSet ⟨head, base, p.mode, dir, createRevert, p.revertMode, revertDir⟩

def ofTransfer (env : Environment) (p : TransferParams) : Binding Task := do
  let sourceOrg ← textValue env p.sourceOrg
  let targetOrg ← textValue env p.targetOrg
  let object ← item env p.object
  let fields ← items env p.fields
  let filter ← optionalText env p.filter
  let externalId ← textValue env p.externalId
  let allowance ← allowance env p.failedBatches p.failedRecords
  return .transfer ⟨sourceOrg, targetOrg, object, fields, filter.getD "", externalId, allowance⟩

def ofAccessToken (env : Environment) (p : AccessTokenParams) : Binding Task := do
  let name ← textValue env p.name
  let instanceUrl ← textValue env p.instanceUrl
  let token ← textValue env p.accessToken
  return .command (.storeAccessToken name instanceUrl token)

def ofBulkDelete (env : Environment) (p : BulkDeleteParams) : Binding Task := do
  let org ← textValue env p.org
  let csvFile ← textValue env p.csvFile
  let object ← textValue env p.object
  let allowance ← allowance env p.failedBatches p.failedRecords
  return .bulk "delete" (.bulkDelete org csvFile object) allowance

def ofBulkUpsert (env : Environment) (p : BulkUpsertParams) : Binding Task := do
  let org ← textValue env p.org
  let csvFile ← textValue env p.csvFile
  let externalId ← textValue env p.externalId
  let object ← textValue env p.object
  let allowance ← allowance env p.failedBatches p.failedRecords
  return .bulk "upsert" (.bulkUpsert org csvFile externalId object) allowance

def ofQueryCsv (env : Environment) (p : QueryCsvParams) : Binding Task := do
  let org ← textValue env p.org
  let csvFile ← textValue env p.csvFile
  let object ← textValue env p.object
  let fields ← texts env p.fields
  let filter ← optionalText env p.filter
  return .query (.queryCsv org csvFile (Platform.query object fields (filter.getD "")) none)

def ofDeploy (env : Environment) (p : DeployParams) : Binding Task := do
  let org ← textValue env p.org
  let checkOnly ← switch env p.checkOnly
  let dir ← optionalText env p.dir
  let zip ← optionalText env p.zip
  return .deploy ⟨org, p.level, checkOnly, dir, zip⟩

def ofRetrieve (env : Environment) (p : RetrieveParams) : Binding Task := do
  let org ← textValue env p.org
  let targetDir ← textValue env p.targetDir
  let manifest ← optionalText env p.manifest
  let packages ← optionalTexts env p.packages
  return .command (.retrieve org targetDir manifest packages)

def ofScratchOrg (env : Environment) (p : ScratchOrgParams) : Binding Task := do
  let name ← textValue env p.name
  let noAncestors ← switch env p.noAncestors
  let definitionFile ← textValue env p.definitionFile
  let devHub ← textValue env p.devHub
  let days ← optionalNumber env p.duration
  let adminEmail ← optionalText env (p.override.bind (·.adminEmail))
  return .command (.createScratchOrg
    ⟨name, noAncestors, definitionFile, devHub, days.getD defaultDays, adminEmail⟩)

def withText (env : Environment) (command : String → Platform.Command) (raw : String) :
    Binding Task := do
  return .command (command (← textValue env raw))

def withTexts (env : Environment) (command : String → String → Platform.Command)
    (first second : String) : Binding Task := do
  let a ← textValue env first
  let b ← textValue env second
  return .command (command a b)

def resolve (env : Environment) : StepKind → Binding Task
  | changeSet p => ofChangeSet env p
  | transfer p => ofTransfer env p
  | authAccessToken p => ofAccessToken env p
  | authList => return .command .listOrgs
  | authLogout p => withText env .logout p.org
  | authSfdxUrl p => withTexts env .storeSfdxUrl p.name p.file
  | apexExecute p => withTexts env .executeApex p.org p.codeFile
  | apexTest p => withTexts env (.runTests · · p.level) p.org p.outputDir
  | bulkDelete p => ofBulkDelete env p
  | bulkUpsert p => ofBulkUpsert env p
  | treeImport p => withTexts env .importTree p.org p.planFile
  | queryCsv p => ofQueryCsv env p
  | deploy p => ofDeploy env p
  | retrieve p => ofRetrieve env p
  | createScratchOrg p => ofScratchOrg env p
  | deleteOrg p => withTexts env .deleteOrg p.org p.devHub
  | displayOrg p => withText env .displayOrg p.org
  | installPackage p => withTexts env .installPackage p.org p.package
  | pushSource p => do
    let org ← textValue env p.org
    let force ← switch env p.forceOverwrite
    return .command (.pushSource org force)
  | unsupported type => return .unsupported type

/-- Resolves the parameters of a step against a store and carries it out. No
payload is `none`. -/
def execute (env : Environment) (tools : Tools) (directory : String) (kind : StepKind)
    (store : Store) : StateM World (Except Error (Option Json) × Store) := fun w =>
  let (task, store) := kind.resolve env store
  let (result, w) := task.perform tools directory w
  ((result, store), w)

end StepKind
end OrgPipeline
