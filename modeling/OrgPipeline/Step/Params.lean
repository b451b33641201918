import OrgPipeline.Param
import OrgPipeline.ChangeSet.Mode
import OrgPipeline.Platform.TestLevel
import OrgPipeline.Transfer.Item

/-!
# Parameters of the steps

For each kind of step its parameters as written in a pipeline file, the schema
by which they are read and the members as which they are written. Texts may be
references; a missing optional parameter is written as null.
-/

set_option autoImplicit false

namespace OrgPipeline

structure ChangeSetParams where
  headSha : String
  baseSha : String
  mode : DestructiveMode
  dir : String
  createRevert : Option Param
  revertMode : DestructiveMode
  revertDir : Option String

namespace ChangeSetParams

def schema : Schema ChangeSetParams :=
  mk <$> .required "headSha" Fit.text <*>
    .required "baseSha" Fit.text <*>
    .withDefault "destructiveChangeSetMode" DestructiveMode.ofJson .post <*>
    .required "changeSetDir" Fit.text <*>
    .optional "createRevertChangeSet" Param.ofJson <*>
    .withDefault "revertDestructiveChangeSetMode" DestructiveMode.ofJson .post <*>
    .optional "revertChangeSetDir" Fit.text

def members (p : ChangeSetParams) : Json.Members :=
  [("headSha", .str p.headSha), ("baseSha", .str p.baseSha),
    ("destructiveChangeSetMode", p.mode.toJson), ("changeSetDir", .str p.dir),
    ("createRevertChangeSet", .orNull (p.createRevert.map Param.toJson)),
    ("revertDestructiveChangeSetMode", p.revertMode.toJson),
    ("revertChangeSetDir", .orNull (p.revertDir.map .str))]

end ChangeSetParams

structure TransferParams where
  sourceOrg : String
  targetOrg : String
  object : TransferItem
  fields : List TransferItem
  filter : Option String
  externalId : String
  failedBatches : Option Param
  failedRecords : Option Param

namespace TransferParams

def schema : Schema TransferParams :=
  mk <$> .required "sourceOrgAlias" Fit.text <*>
    .required "targetOrgAlias" Fit.text <*>
    .required "sObjectType" TransferItem.ofJson <*>
    .required "sObjectFields" (Fit.list TransferItem.ofJson) <*>
    .optional "queryFilter" Fit.text <*>
    .required "externalId" Fit.text <*>
    .optional "allowNoMoreFailedBatches" Param.ofJson <*>
    .optional "allowNoMoreFailedRecords" Param.ofJson

def members (p : TransferParams) : Json.Members :=
  [("sourceOrgAlias", .str p.sourceOrg), ("targetOrgAlias", .str p.targetOrg),
    ("sObjectType", p.object.toJson), ("sObjectFields", .arr (p.fields.map TransferItem.toJson)),
    ("queryFilter", .orNull (p.filter.map .str)), ("externalId", .str p.externalId),
    ("allowNoMoreFailedBatches", .orNull (p.failedBatches.map Param.toJson)),
    ("allowNoMoreFailedRecords", .orNull (p.failedRecords.map Param.toJson))]

end TransferParams

structure AccessTokenParams where
  name : String
  instanceUrl : String
  accessToken : String

namespace AccessTokenParams

def schema : Schema AccessTokenParams :=
  mk <$> .required "alias" Fit.text <*>
    .required "instanceUrl" Fit.text <*>
    .required "accessToken" Fit.text

def members (p : AccessTokenParams) : Json.Members :=
  [("alias", .str p.name), ("instanceUrl", .str p.instanceUrl),
    ("accessToken", .str p.accessToken)]

end AccessTokenParams

structure SfdxUrlParams where
  name : String
  file : String

namespace SfdxUrlParams

def schema : Schema SfdxUrlParams :=
  mk <$> .required "alias" Fit.text <*>
    .required "sfdxUrlFile" Fit.text

def members (p : SfdxUrlParams) : Json.Members :=
  [("alias", .str p.name), ("sfdxUrlFile", .str p.file)]

end SfdxUrlParams

/-- A step that needs an org and nothing else. -/
structure TargetOrgParams where
  org : String

namespace TargetOrgParams

def schema : Schema TargetOrgParams :=
  mk <$> .required "targetUserName" Fit.text

def members (p : TargetOrgParams) : Json.Members :=
  [("targetUserName", .str p.org)]

end TargetOrgParams

structure ApexExecuteParams where
  org : String
  codeFile : String

namespace ApexExecuteParams

def schema : Schema ApexExecuteParams :=
  mk <$> .required "targetUserName" Fit.text <*>
    .required "apexCodeFile" Fit.text

def members (p : ApexExecuteParams) : Json.Members :=
  [("targetUserName", .str p.org), ("apexCodeFile", .str p.codeFile)]

end ApexExecuteParams

structure ApexTestParams where
  org : String
  outputDir : String
  level : ApexTestLevel

namespace ApexTestParams

def schema : Schema ApexTestParams :=
  mk <$> .required "targetUserName" Fit.text <*>
    .required "outputDir" Fit.text <*>
    .required "testLevel" ApexTestLevel.ofJson

def members (p : ApexTestParams) : Json.Members :=
  [("targetUserName", .str p.org), ("outputDir", .str p.outputDir),
    ("testLevel", p.level.toJson)]

end ApexTestParams

structure BulkDeleteParams where
  org : String
  csvFile : String
  object : String
  failedBatches : Option Param
  failedRecords : Option Param

namespace BulkDeleteParams

def schema : Schema BulkDeleteParams :=
  mk <$> .required "targetUserName" Fit.text <*>
    .required "csvFile" Fit.text <*>
    .required "sObjectType" Fit.text <*>
    .optional "allowNoMoreFailedBatches" Param.ofJson <*>
    .optional "allowNoMoreFailedRecords" Param.ofJson

def members (p : BulkDeleteParams) : Json.Members :=
  [("targetUserName", .str p.org), ("csvFile", .str p.csvFile), ("sObjectType", .str p.object),
    ("allowNoMoreFailedBatches", .orNull (p.failedBatches.map Param.toJson)),
    ("allowNoMoreFailedRecords", .orNull (p.failedRecords.map Param.toJson))]

end BulkDeleteParams

structure BulkUpsertParams where
  org : String
  csvFile : String
  externalId : String
  object : String
  failedBatches : Option Param
  failedRecords : Option Param

namespace BulkUpsertParams

def schema : Schema BulkUpsertParams :=
  mk <$> .required "targetUserName" Fit.text <*>
    .required "csvFile" Fit.text <*>
    .required "externalId" Fit.text <*>
    .required "sObjectType" Fit.text <*>
    .optional "allowNoMoreFailedBatches" Param.ofJson <*>
    .optional "allowNoMoreFailedRecords" Param.ofJson

def members (p : BulkUpsertParams) : Json.Members :=
  [("targetUserName", .str p.org), ("csvFile", .str p.csvFile),
    ("externalId", .str p.externalId), ("sObjectType", .str p.object),
    ("allowNoMoreFailedBatches", .orNull (p.failedBatches.map Param.toJson)),
    ("allowNoMoreFailedRecords", .orNull (p.failedRecords.map Param.toJson))]

end BulkUpsertParams

structure TreeImportParams where
  org : String
  planFile : String

namespace TreeImportParams

def schema : Schema TreeImportParams :=
  mk <$> .required "targetUserName" Fit.text <*>
    .required "planFile" Fit.text

def members (p : TreeImportParams) : Json.Members :=
  [("targetUserName", .str p.org), ("planFile", .str p.planFile)]

end TreeImportParams

structure QueryCsvParams where
  org : String
  csvFile : String
  object : String
  fields : List String
  filter : Option String

namespace QueryCsvParams

def schema : Schema QueryCsvParams :=
  mk <$> .required "targetUserName" Fit.text <*>
    .required "csvFile" Fit.text <*>
    .required "sObjectType" Fit.text <*>
    .required "sObjectFields" (Fit.list Fit.text) <*>
    .optional "queryFilter" Fit.text

def members (p : QueryCsvParams) : Json.Members :=
  [("targetUserName", .str p.org), ("csvFile", .str p.csvFile), ("sObjectType", .str p.object),
    ("sObjectFields", .strings p.fields), ("queryFilter", .orNull (p.filter.map .str))]

end QueryCsvParams

structure DeployParams where
  org : String
  level : DeployTestLevel
  checkOnly : Option Param
  dir : Option String
  zip : Option String

namespace DeployParams

def schema : Schema DeployParams :=
  mk <$> .required "targetUserName" Fit.text <*>
    .required "testLevel" DeployTestLevel.ofJson <*>
    .optional "checkOnly" Param.ofJson <*>
    .optional "deployDir" Fit.text <*>
    .optional "deployZip" Fit.text

def members (p : DeployParams) : Json.Members :=
  [("targetUserName", .str p.org), ("testLevel", p.level.toJson),
    ("checkOnly", .orNull (p.checkOnly.map Param.toJson)),
    ("deployDir", .orNull (p.dir.map .str)), ("deployZip", .orNull (p.zip.map .str))]

end DeployParams

structure RetrieveParams where
  org : String
  targetDir : String
  manifest : Option String
  packages : Option (List String)

namespace RetrieveParams

def schema : Schema RetrieveParams :=
  mk <$> .required "targetUserName" Fit.text <*>
    .required "retrieveTargetDir" Fit.text <*>
    .optional "manifestFile" Fit.text <*>
    .optional "packageNames" (Fit.list Fit.text)

def members (p : RetrieveParams) : Json.Members :=
  [("targetUserName", .str p.org), ("retrieveTargetDir", .str p.targetDir),
    ("manifestFile", .orNull (p.manifest.map .str)),
    ("packageNames", .orNull (p.packages.map .strings))]

end RetrieveParams

structure OverrideParams where
  adminEmail : Option String

namespace OverrideParams

def schema : Schema OverrideParams :=
  mk <$> .optional "adminEmail" Fit.text

def members (p : OverrideParams) : Json.Members :=
  [("adminEmail", .orNull (p.adminEmail.map .str))]

def toJson (p : OverrideParams) : Json := .object p.members

/-- Unlike the step itself this record may be written as an array. -/
def ofJson (v : Json) : Fit OverrideParams := schema.read true "OverrideDefinition" v

end OverrideParams

structure ScratchOrgParams where
  name : String
  noAncestors : Option Param
  definitionFile : String
  devHub : String
  duration : Option Param
  override : Option OverrideParams

namespace ScratchOrgParams

def schema : Schema ScratchOrgParams :=
  mk <$> .required "alias" Fit.text <*>
    .optional "noAncestors" Param.ofJson <*>
    .required "definitionFile" Fit.text <*>
    .required "devHubUserName" Fit.text <*>
    .optional "duration" Param.ofJson <*>
    .optional "overrideDefinition" OverrideParams.ofJson

def members (p : ScratchOrgParams) : Json.Members :=
  [("alias", .str p.name), ("noAncestors", .orNull (p.noAncestors.map Param.toJson)),
    ("definitionFile", .str p.definitionFile), ("devHubUserName", .str p.devHub),
    ("duration", .orNull (p.duration.map Param.toJson)),
    ("overrideDefinition", .orNull (p.override.map OverrideParams.toJson))]

end ScratchOrgParams

structure OrgDeleteParams where
  org : String
  devHub : String

namespace OrgDeleteParams

def schema : Schema OrgDeleteParams :=
  mk <$> .required "targetUserName" Fit.text <*>
    .required "devHubUserName" Fit.text

def members (p : OrgDeleteParams) : Json.Members :=
  [("targetUserName", .str p.org), ("devHubUserName", .str p.devHub)]

end OrgDeleteParams

structure PackageInstallParams where
  org : String
  package : String

namespace PackageInstallParams

def schema : Schema PackageInstallParams :=
  mk <$> .required "targetUserName" Fit.text <*>
    .required "packageId" Fit.text

def members (p : PackageInstallParams) : Json.Members :=
  [("targetUserName", .str p.org), ("packageId", .str p.package)]

end PackageInstallParams

structure SourcePushParams where
  org : String
  forceOverwrite : Option Param

namespace SourcePushParams

def schema : Schema SourcePushParams :=
  mk <$> .required "targetUserName" Fit.text <*>
    .optional "forceOverwrite" Param.ofJson

def members (p : SourcePushParams) : Json.Members :=
  [("targetUserName", .str p.org),
    ("forceOverwrite", .orNull (p.forceOverwrite.map Param.toJson))]

end SourcePushParams

end OrgPipeline
