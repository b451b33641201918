import OrgPipeline.Step.Params

/-!
# Steps

A step has an identifier, a kind with its parameters, and may be allowed to
fail. The kinds are closed: every type name outside the list of step types is
unsupported.
-/

set_option autoImplicit false

namespace OrgPipeline

inductive StepKind where
  | changeSet (p : ChangeSetParams)
  | transfer (p : TransferParams)
  | authAccessToken (p : AccessTokenParams)
  | authList
  | authLogout (p : TargetOrgParams)
  | authSfdxUrl (p : SfdxUrlParams)
  | apexExecute (p : ApexExecuteParams)
  | apexTest (p : ApexTestParams)
  | bulkDelete (p : BulkDeleteParams)
  | bulkUpsert (p : BulkUpsertParams)
  | treeImport (p : TreeImportParams)
  | queryCsv (p : QueryCsvParams)
  | deploy (p : DeployParams)
  | retrieve (p : RetrieveParams)
  | createScratchOrg (p : ScratchOrgParams)
  | deleteOrg (p : OrgDeleteParams)
  | displayOrg (p : TargetOrgParams)
  | installPackage (p : PackageInstallParams)
  | pushSource (p : SourcePushParams)
  | unsupported (type : String)

namespace StepKind

def types : List String :=
  ["ci.changeSet.create", "ci.data.transfer", "sfdx.auth.accessToken", "sfdx.auth.list",
    "sfdx.auth.logout", "sfdx.auth.sfdxUrl", "sfdx.force.apex.execute",
    "sfdx.force.apex.test.run", "sfdx.force.data.bulk.delete", "sfdx.force.data.bulk.upsert",
    "sfdx.force.data.tree.import", "sfdx.force.data.soql.query.csv", "sfdx.force.mdApi.deploy",
    "sfdx.force.mdApi.retrieve", "sfdx.force.org.create.scratch", "sfdx.force.org.delete",
    "sfdx.force.org.display", "sfdx.force.package.install", "sfdx.force.source.push"]

def typeName : StepKind → String
  | changeSet _ => "ci.changeSet.create"
  | transfer _ => "ci.data.transfer"
  | authAccessToken _ => "sfdx.auth.accessToken"
  | authList => "sfdx.auth.list"
  | authLogout _ => "sfdx.auth.logout"
  | authSfdxUrl _ => "sfdx.auth.sfdxUrl"
  | apexExecute _ => "sfdx.force.apex.execute"
  | apexTest _ => "sfdx.force.apex.test.run"
  | bulkDelete _ => "sfdx.force.data.bulk.delete"
  | bulkUpsert _ => "sfdx.force.data.bulk.upsert"
  | treeImport _ => "sfdx.force.data.tree.import"
  | queryCsv _ => "sfdx.force.data.soql.query.csv"
  | deploy _ => "sfdx.force.mdApi.deploy"
  | retrieve _ => "sfdx.force.mdApi.retrieve"
  | createScratchOrg _ => "sfdx.force.org.create.scratch"
  | deleteOrg _ => "sfdx.force.org.delete"
  | displayOrg _ => "sfdx.force.org.display"
  | installPackage _ => "sfdx.force.package.install"
  | pushSource _ => "sfdx.force.source.push"
  | unsupported type => type

def members? : StepKind → Option Json.Members
  | changeSet p => some p.members
  | transfer p => some p.members
  | authAccessToken p => some p.members
  | authList => none
  | authLogout p => some p.members
  | authSfdxUrl p => some p.members
  | apexExecute p => some p.members
  | apexTest p => some p.members
  | bulkDelete p => some p.members
  | bulkUpsert p => some p.members
  | treeImport p => some p.members
  | queryCsv p => some p.members
  | deploy p => some p.members
  | retrieve p => some p.members
  | createScratchOrg p => some p.members
  | deleteOrg p => some p.members
  | displayOrg p => some p.members
  | installPackage p => some p.members
  | pushSource p => some p.members
  | unsupported _ => none

/-- A kind whose parameters follow a schema, all of them declared. -/
def reader {α : Type} (s : Schema α) (kind : α → StepKind) (members : Json.Members) :
    Fit StepKind := (s.readMembers true members).map kind

def bare (kind : StepKind) : Json.Members → Fit StepKind
  | [] => .ok kind
  | (name, _) :: _ => .error (.strayMember name)

def reader? (type : String) : Option (Json.Members → Fit StepKind) :=
  if type = "ci.changeSet.create" then some (reader ChangeSetParams.schema changeSet)
  else if type = "ci.data.transfer" then some (reader TransferParams.schema transfer)
  else if type = "sfdx.auth.accessToken" then
    some (reader AccessTokenParams.schema authAccessToken)
  else if type = "sfdx.auth.list" then some (bare authList)
  else if type = "sfdx.auth.logout" then some (reader TargetOrgParams.schema authLogout)
  else if type = "sfdx.auth.sfdxUrl" then some (reader SfdxUrlParams.schema authSfdxUrl)
  else if type = "sfdx.force.apex.execute" then
    some (reader ApexExecuteParams.schema apexExecute)
  else if type = "sfdx.force.apex.test.run" then some (reader ApexTestParams.schema apexTest)
  else if type = "sfdx.force.data.bulk.delete" then
    some (reader BulkDeleteParams.schema bulkDelete)
  else if type = "sfdx.force.data.bulk.upsert" then
    some (reader BulkUpsertParams.schema bulkUpsert)
  else if type = "sfdx.force.data.tree.import" then
    some (reader TreeImportParams.schema treeImport)
  else if type = "sfdx.force.data.soql.query.csv" then
    some (reader QueryCsvParams.schema queryCsv)
  else if type = "sfdx.force.mdApi.deploy" then some (reader DeployParams.schema deploy)
  else if type = "sfdx.force.mdApi.retrieve" then some (reader RetrieveParams.schema retrieve)
  else if type = "sfdx.force.org.create.scratch" then
    some (reader ScratchOrgParams.schema createScratchOrg)
  else if type = "sfdx.force.org.delete" then some (reader OrgDeleteParams.schema deleteOrg)
  else if type = "sfdx.force.org.display" then some (reader TargetOrgParams.schema displayOrg)
  else if type = "sfdx.force.package.install" then
    some (reader PackageInstallParams.schema installPackage)
  else if type = "sfdx.force.source.push" then some (reader SourcePushParams.schema pushSource)
  else none

/-- The kind of a type with its parameters; none for a type not known. -/
def parse (type : String) (members : Json.Members) : Fit (Option StepKind) :=
  match reader? type with
  | none => .ok none
  | some read => (read members).map some

def isUnsupported : StepKind → Bool
  | unsupported _ => true
  | _ => false

end StepKind

structure Step where
  id : String
  continueOnError : Bool
  kind : StepKind

def Step.summary (s : Step) : Json :=
  .object ([("id", .str s.id), ("type", .str s.kind.typeName),
    ("continueOnError", .bool s.continueOnError)] ++
    if s.kind.isUnsupported then [("unsupported", .bool true)] else [])

end OrgPipeline
