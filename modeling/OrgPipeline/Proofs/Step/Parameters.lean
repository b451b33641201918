import OrgPipeline.Proofs.ReadBack
import OrgPipeline.Step.Basic

/-!
# The parameters of the steps are read back

For each record of parameters: what is written of it reads as the record, and what is
read from an object has finite numbers only.
-/

set_option autoImplicit false

namespace OrgPipeline

theorem DestructiveMode.ofJson_toJson (m : DestructiveMode) : ofJson m.toJson = .ok m := by
  cases m <;> rfl

theorem ApexTestLevel.ofJson_toJson (l : ApexTestLevel) : ofJson l.toJson = .ok l := by
  cases l <;> rfl

theorem DeployTestLevel.ofJson_toJson (l : DeployTestLevel) : ofJson l.toJson = .ok l := by
  cases l <;> rfl

theorem TransferItem.ofJson_toJson (i : TransferItem) : ofJson i.toJson = .ok i := by
  cases i with
  | same name => rfl
  | mapped source target =>
    have hnodup : (([("source", .str source), ("target", .str target)] : Json.Members).map
        Prod.fst).Nodup := by
      simp
    have hmembers :
        ofMembers? (Json.sortMembers [("source", .str source), ("target", .str target)]) =
          some (mapped source target) := by
      rw [ofMembers?, Json.lookup_sortMembers hnodup, Json.lookup_sortMembers hnodup]
      rfl
    rw [toJson, Json.object, ofJson, hmembers]

theorem OverrideParams.readsBack : schema.ReadsBack members id fun _ => [] :=
  .firstOptionalText mk "adminEmail" adminEmail fun _ => []

theorem OverrideParams.ofJson_toJson (p : OverrideParams) :
    p.toJson ≠ .null ∧ ofJson p.toJson = .ok p :=
  ⟨nofun, readsBack.readMembers (by decide) nofun⟩

def StepKind.literals : StepKind → List Param
  | .changeSet p => p.createRevert.toList
  | .transfer p => p.failedBatches.toList ++ p.failedRecords.toList
  | .bulkDelete p => p.failedBatches.toList ++ p.failedRecords.toList
  | .bulkUpsert p => p.failedBatches.toList ++ p.failedRecords.toList
  | .deploy p => p.checkOnly.toList
  | .createScratchOrg p => p.noAncestors.toList ++ p.duration.toList
  | .pushSource p => p.forceOverwrite.toList
  | _ => []

def StepKind.Finite (k : StepKind) : Prop := ∀ q ∈ k.literals, q.Finite

theorem ChangeSetParams.readsBack :
    schema.ReadsBack members id fun p => (StepKind.changeSet p).literals := by
  have h := Schema.ReadsBack.firstText mk "headSha" headSha
      (fun p => (StepKind.changeSet p).literals)
    |>.text "baseSha" baseSha
    |>.withDefault "destructiveChangeSetMode" mode _ DestructiveMode.ofJson_toJson .post
    |>.text "changeSetDir" dir
    |>.param "createRevertChangeSet" createRevert (fun _ => List.Subset.refl _)
    |>.withDefault "revertDestructiveChangeSetMode" revertMode _ DestructiveMode.ofJson_toJson .post
    |>.optionalText "revertChangeSetDir" revertDir
  exact h

theorem TransferParams.readsBack :
    schema.ReadsBack members id fun p => (StepKind.transfer p).literals := by
  have h := Schema.ReadsBack.firstText mk "sourceOrgAlias" sourceOrg
      (fun p => (StepKind.transfer p).literals)
    |>.text "targetOrgAlias" targetOrg
    |>.required "sObjectType" object _ TransferItem.ofJson_toJson
    |>.required "sObjectFields" fields _
      (fun _ => Fit.list_map fun item _ => TransferItem.ofJson_toJson item)
    |>.optionalText "queryFilter" filter
    |>.text "externalId" externalId
    |>.param "allowNoMoreFailedBatches" failedBatches (fun _ => List.subset_append_left _ _)
    |>.param "allowNoMoreFailedRecords" failedRecords (fun _ => List.subset_append_right _ _)
  exact h

theorem AccessTokenParams.readsBack : schema.ReadsBack members id fun _ => [] := by
  have h := Schema.ReadsBack.firstText mk "alias" name (fun _ => [])
    |>.text "instanceUrl" instanceUrl
    |>.text "accessToken" accessToken
  exact h

theorem SfdxUrlParams.readsBack : schema.ReadsBack members id fun _ => [] := by
  have h := Schema.ReadsBack.firstText mk "alias" name (fun _ => [])
    |>.text "sfdxUrlFile" file
  exact h

theorem TargetOrgParams.readsBack : schema.ReadsBack members id fun _ => [] :=
  .firstText mk "targetUserName" org fun _ => []

theorem ApexExecuteParams.readsBack : schema.ReadsBack members id fun _ => [] := by
  have h := Schema.ReadsBack.firstText mk "targetUserName" org (fun _ => [])
    |>.text "apexCodeFile" codeFile
  exact h

theorem ApexTestParams.readsBack : schema.ReadsBack members id fun _ => [] := by
  have h := Schema.ReadsBack.firstText mk "targetUserName" org (fun _ => [])
    |>.text "outputDir" outputDir
    |>.required "testLevel" level _ ApexTestLevel.ofJson_toJson
  exact h

theorem BulkDeleteParams.readsBack :
    schema.ReadsBack members id fun p => (StepKind.bulkDelete p).literals := by
  have h := Schema.ReadsBack.firstText mk "targetUserName" org
      (fun p => (StepKind.bulkDelete p).literals)
    |>.text "csvFile" csvFile
    |>.text "sObjectType" object
    |>.param "allowNoMoreFailedBatches" failedBatches (fun _ => List.subset_append_left _ _)
    |>.param "allowNoMoreFailedRecords" failedRecords (fun _ => List.subset_append_right _ _)
  exact h

theorem BulkUpsertParams.readsBack :
    schema.ReadsBack members id fun p => (StepKind.bulkUpsert p).literals := by
  have h := Schema.ReadsBack.firstText mk "targetUserName" org
      (fun p => (StepKind.bulkUpsert p).literals)
    |>.text "csvFile" csvFile
    |>.text "externalId" externalId
    |>.text "sObjectType" object
    |>.param "allowNoMoreFailedBatches" failedBatches (fun _ => List.subset_append_left _ _)
    |>.param "allowNoMoreFailedRecords" failedRecords (fun _ => List.subset_append_right _ _)
  exact h

theorem TreeImportParams.readsBack : schema.ReadsBack members id fun _ => [] := by
  have h := Schema.ReadsBack.firstText mk "targetUserName" org (fun _ => [])
    |>.text "planFile" planFile
  exact h

theorem QueryCsvParams.readsBack : schema.ReadsBack members id fun _ => [] := by
  have h := Schema.ReadsBack.firstText mk "targetUserName" org (fun _ => [])
    |>.text "csvFile" csvFile
    |>.text "sObjectType" object
    |>.required "sObjectFields" fields _ (fun _ => Fit.texts_ok.2 rfl)
    |>.optionalText "queryFilter" filter
  exact h

theorem DeployParams.readsBack :
    schema.ReadsBack members id fun p => (StepKind.deploy p).literals := by
  have h := Schema.ReadsBack.firstText mk "targetUserName" org
      (fun p => (StepKind.deploy p).literals)
    |>.required "testLevel" level _ DeployTestLevel.ofJson_toJson
    |>.param "checkOnly" checkOnly (fun _ => List.Subset.refl _)
    |>.optionalText "deployDir" dir
    |>.optionalText "deployZip" zip
  exact h

theorem RetrieveParams.readsBack : schema.ReadsBack members id fun _ => [] := by
  have h := Schema.ReadsBack.firstText mk "targetUserName" org (fun _ => [])
    |>.text "retrieveTargetDir" targetDir
    |>.optionalText "manifestFile" manifest
    |>.optional "packageNames" packages Json.strings (fun _ => ⟨nofun, Fit.texts_ok.2 rfl⟩)
  exact h

theorem ScratchOrgParams.readsBack :
    schema.ReadsBack members id fun p => (StepKind.createScratchOrg p).literals := by
  have h := Schema.ReadsBack.firstText mk "alias" name
      (fun p => (StepKind.createScratchOrg p).literals)
    |>.param "noAncestors" noAncestors (fun _ => List.subset_append_left _ _)
    |>.text "definitionFile" definitionFile
    |>.text "devHubUserName" devHub
    |>.param "duration" duration (fun _ => List.subset_append_right _ _)
    |>.optional "overrideDefinition" override _ OverrideParams.ofJson_toJson
  exact h

theorem OrgDeleteParams.readsBack : schema.ReadsBack members id fun _ => [] := by
  have h := Schema.ReadsBack.firstText mk "targetUserName" org (fun _ => [])
    |>.text "devHubUserName" devHub
  exact h

theorem PackageInstallParams.readsBack : schema.ReadsBack members id fun _ => [] := by
  have h := Schema.ReadsBack.firstText mk "targetUserName" org (fun _ => [])
    |>.text "packageId" package
  exact h

theorem SourcePushParams.readsBack :
    schema.ReadsBack members id fun p => (StepKind.pushSource p).literals := by
  have h := Schema.ReadsBack.firstText mk "targetUserName" org
      (fun p => (StepKind.pushSource p).literals)
    |>.param "forceOverwrite" forceOverwrite (fun _ => List.Subset.refl _)
  exact h

section
variable {members : Json.Members} (hm : Json.Proper members)
include hm

theorem ChangeSetParams.finite :
    schema.Yields members fun p => (StepKind.changeSet p).Finite :=
  .next <| .next <| .param hm <| .next <| .next <| .next <| .first
    fun _ _ _ _ _ ho _ _ => ho

theorem TransferParams.finite :
    schema.Yields members fun p => (StepKind.transfer p).Finite :=
  .param hm <| .param hm <| .next <| .next <| .next <| .next <| .next <| .first
    fun _ _ _ _ _ _ _ hb _ hr => List.forall_mem_append.2 ⟨hb, hr⟩

theorem BulkDeleteParams.finite :
    schema.Yields members fun p => (StepKind.bulkDelete p).Finite :=
  .param hm <| .param hm <| .next <| .next <| .first fun _ _ _ _ hb _ hr =>
    List.forall_mem_append.2 ⟨hb, hr⟩

theorem BulkUpsertParams.finite :
    schema.Yields members fun p => (StepKind.bulkUpsert p).Finite :=
  .param hm <| .param hm <| .next <| .next <| .next <| .first fun _ _ _ _ _ hb _ hr =>
    List.forall_mem_append.2 ⟨hb, hr⟩

theorem DeployParams.finite :
    schema.Yields members fun p => (StepKind.deploy p).Finite :=
  .next <| .next <| .param hm <| .next <| .first fun _ _ _ ho _ _ => ho

theorem ScratchOrgParams.finite :
    schema.Yields members fun p => (StepKind.createScratchOrg p).Finite :=
  .next <| .param hm <| .next <| .next <| .param hm <| .first fun _ _ hb _ _ _ hr _ =>
    List.forall_mem_append.2 ⟨hb, hr⟩

theorem SourcePushParams.finite :
    schema.Yields members fun p => (StepKind.pushSource p).Finite :=
  .param hm <| .first fun _ _ ho => ho

end

end OrgPipeline
