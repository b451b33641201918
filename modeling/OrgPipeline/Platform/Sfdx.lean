import OrgPipeline.Platform.Command
import OrgPipeline.Platform.Envelope
import OrgPipeline.Environment
import OrgPipeline.Param

/-!
# The platform behind a command line tool

Each command becomes one start of the tool, and its answer is read from the
envelope that the tool prints. A query is the exception: the tool prints the
rows themselves, which go to a file. An access token is never an argument; it
is handed over in the environment of the tool.
-/

set_option autoImplicit false

namespace OrgPipeline.Platform

structure Sfdx where
  bin : String
  directory : String

namespace Sfdx

def binVariable : String := "SFDX_CI_SFDX_BIN"

def defaultBin : String := "sfdx"

def nonBlank (s : Option String) : Option String := s.filter fun b => !Text.blank b

/-- The tool that is named, by an argument or in the environment. -/
def resolveBin (env : Environment) (named : Option String) : String :=
  (nonBlank named <|> nonBlank (env binVariable)).getD defaultBin

/-! ## Arguments -/

/-- Minutes to wait for a command that takes long. -/
def waiting : List String := ["--wait", "60"]

def noPrompt : List String := ["--noprompt"]

def user (org : String) : List String := ["--targetusername", org]

def given (name : String) : Option String → List String
  | some v => [name, v]
  | none => []

def switch (name : String) (on : Bool) : List String := if on then [name] else []

def nonEmptyNames : Option (List String) → List String
  | some names => if names.isEmpty then [] else ["--packagenames", Text.join "," names]
  | none => []

def querySubcommand : String := "force:data:soql:query"

def invocation : Command → String × List String
  | .storeAccessToken name instanceUrl _ =>
    ("auth:accesstoken:store", ["--setalias", name, "--instanceurl", instanceUrl] ++ noPrompt)
  | .storeSfdxUrl name file =>
    ("auth:sfdxurl:store", ["--setalias", name, "--sfdxurlfile", file])
  | .listOrgs => ("auth:list", [])
  | .logout org => ("auth:logout", user org ++ noPrompt)
  | .executeApex org codeFile => ("force:apex:execute", user org ++ ["--apexcodefile", codeFile])
  | .runTests org outputDir level =>
    ("force:apex:test:run",
      user org ++ ["--outputdir", outputDir, "--testlevel", level.text] ++ waiting)
  | .bulkDelete org csvFile object =>
    ("force:data:bulk:delete",
      user org ++ ["--csvfile", csvFile, "--sobjecttype", object] ++ waiting)
  | .bulkUpsert org csvFile externalId object =>
    ("force:data:bulk:upsert",
      user org ++ ["--csvfile", csvFile, "--externalid", externalId, "--sobjecttype", object] ++
        waiting)
  | .importTree org planFile => ("force:data:tree:import", user org ++ ["--plan", planFile])
  | .queryCsv org _ query _ =>
    (querySubcommand, user org ++ ["--query", query, "--resultformat", "csv"])
  | .deploy d =>
    ("force:mdapi:deploy",
      user d.org ++ ["--testlevel", d.level.text] ++ switch "--checkonly" d.checkOnly ++
        given "--deploydir" d.dir ++ given "--zipfile" d.zip ++ ["--wait", "0"])
  | .deployReport org job minutes =>
    ("force:mdapi:deploy:report", user org ++ ["--jobid", job, "--wait", toString minutes])
  | .retrieve org targetDir manifest packages =>
    ("force:mdapi:retrieve",
      user org ++ ["--retrievetargetdir", targetDir] ++ given "--unpackaged" manifest ++
        nonEmptyNames packages ++ waiting)
  | .createScratchOrg o =>
    ("force:org:create",
      ["--type", "scratch", "--setalias", o.name, "--definitionfile", o.definitionFile,
        "--targetdevhubusername", o.devHub, "--durationdays", Param.numberText o.days] ++
        switch "--noancestors" o.noAncestors ++
        (o.adminEmail.map ("adminEmail=" ++ ·)).toList)
  | .deleteOrg org devHub =>
    ("force:org:delete", user org ++ ["--targetdevhubusername", devHub] ++ noPrompt)
  | .displayOrg org => ("force:org:display", user org)
  | .installPackage org package =>
    ("force:package:install", user org ++ ["--package", package] ++ waiting ++ noPrompt)
  | .pushSource org force => ("force:source:push", user org ++ switch "--forceoverwrite" force)
  | .convertSource outputDir sources =>
    ("force:source:convert", ["--outputdir", outputDir, "--sourcepath", Text.join "," sources])

def token? : Command → Option String
  | .storeAccessToken _ _ token => some token
  | _ => none

/-! ## Running a command -/

def runEnveloped (tool : Sfdx) (c : Command) : Action Json := do
  let (subcommand, args) := invocation c
  let launch : Launch :=
    ⟨tool.directory, tool.bin, subcommand :: args ++ ["--json"], token? c⟩
  let output ← launch.capture subcommand
  Action.ofExcept (Envelope.answer subcommand output)

def replaceHeader (content header : String) : String :=
  match Text.splitOnce '\n' content with
  | some (_, rest) => header ++ "\n" ++ rest
  | none => header ++ "\n"

def rows (header : Option String) (content : String) : String :=
  match header with
  | some h => replaceHeader content h
  | none => content

def queryFailureName : String := "SoqlQueryError"

def runQuery (tool : Sfdx) (c : Command) (csvFile : String) (header : Option String) :
    Action Json := do
  let (subcommand, args) := invocation c
  let launch : Launch := ⟨tool.directory, tool.bin, subcommand :: args, none⟩
  let output ← launch.capture subcommand
  if output.success then
    Action.writeText (Path.join tool.directory csvFile) (rows header output.stdout)
      "write SOQL query CSV"
    return .null
  else throw (Envelope.bareFailure queryFailureName subcommand output)

def perform (tool : Sfdx) (c : Command) : Action Json :=
  match c with
  | .queryCsv _ csvFile _ header => tool.runQuery c csvFile header
  | c => tool.runEnveloped c

end Sfdx
end OrgPipeline.Platform
