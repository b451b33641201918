import OrgPipeline.Step.Task

/-!
# What a step reads of the environment

Of the environment a step sees the variables to which the texts of its parameters
refer, and nothing else.
-/

set_option autoImplicit false

namespace OrgPipeline

namespace Environment

def Named (name raw : String) : Prop := Reference.parse raw = some (.env name)

instance (name raw : String) : Decidable (Named name raw) :=
  inferInstanceAs (Decidable (_ = _))

def SameFor (env₁ env₂ : Environment) (raw : String) : Prop :=
  ∀ name, Named name raw → env₁ name = env₂ name

end Environment

namespace Param

def texts (p : Param) : List String := p.asText?.toList

def optionalTexts (p : Option Param) : List String := (p.map texts).getD []

end Param

def TransferItem.texts : TransferItem → List String
  | .same name => [name]
  | .mapped source target => [source, target]

def StepKind.texts : StepKind → List String
  | .changeSet p =>
    [p.headSha, p.baseSha, p.dir] ++ Param.optionalTexts p.createRevert ++ p.revertDir.toList
  | .transfer p =>
    [p.sourceOrg, p.targetOrg, p.externalId] ++ p.object.texts ++
      p.fields.flatMap TransferItem.texts ++ p.filter.toList ++
      Param.optionalTexts p.failedBatches ++ Param.optionalTexts p.failedRecords
  | .authAccessToken p => [p.name, p.instanceUrl, p.accessToken]
  | .authList => []
  | .authLogout p => [p.org]
  | .authSfdxUrl p => [p.name, p.file]
  | .apexExecute p => [p.org, p.codeFile]
  | .apexTest p => [p.org, p.outputDir]
  | .bulkDelete p =>
    [p.org, p.csvFile, p.object] ++ Param.optionalTexts p.failedBatches ++
      Param.optionalTexts p.failedRecords
  | .bulkUpsert p =>
    [p.org, p.csvFile, p.externalId, p.object] ++ Param.optionalTexts p.failedBatches ++
      Param.optionalTexts p.failedRecords
  | .treeImport p => [p.org, p.planFile]
  | .queryCsv p => [p.org, p.csvFile, p.object] ++ p.fields ++ p.filter.toList
  | .deploy p =>
    [p.org] ++ Param.optionalTexts p.checkOnly ++ p.dir.toList ++ p.zip.toList
  | .retrieve p => [p.org, p.targetDir] ++ p.manifest.toList ++ p.packages.getD []
  | .createScratchOrg p =>
    [p.name, p.definitionFile, p.devHub] ++ Param.optionalTexts p.noAncestors ++
      Param.optionalTexts p.duration ++ (p.override.bind (·.adminEmail)).toList
  | .deleteOrg p => [p.org, p.devHub]
  | .displayOrg p => [p.org]
  | .installPackage p => [p.org, p.package]
  | .pushSource p => [p.org] ++ Param.optionalTexts p.forceOverwrite
  | .unsupported _ => []

namespace Store
variable {env₁ env₂ : Environment}

theorem lookup_congr {r : Reference} (h : ∀ name, r = .env name → env₁ name = env₂ name)
    (s : Store) : s.lookup env₁ r = s.lookup env₂ r := by
  cases r with
  | env name => exact h name rfl
  | step id path => cases path <;> rfl
  | _ => rfl

theorem resolve_congr {raw : String} (h : env₁.SameFor env₂ raw) :
    resolve env₁ raw = resolve env₂ raw := by
  unfold resolve
  cases hraw : Reference.parse raw with
  | none => rfl
  | some r =>
    have hlookup : (fun s : Store => s.lookup env₁ r) = fun s => s.lookup env₂ r :=
      funext (lookup_congr fun name hr => h name (hraw.trans (congrArg some hr)))
    cases r with
    | unknown body => rfl
    | _ => exact congrArg (fun look => (do return look (← get) : Binding (Option String))) hlookup

theorem textValue_congr {raw : String} (h : env₁.SameFor env₂ raw) :
    textValue env₁ raw = textValue env₂ raw := by
  rw [textValue, textValue, resolve_congr h]

theorem scalarOf_congr {p : Param} (h : ∀ raw ∈ p.texts, env₁.SameFor env₂ raw) :
    scalarOf env₁ p = scalarOf env₂ p := by
  cases p with
  | text s => exact resolve_congr (h s (List.mem_singleton.2 rfl))
  | bool b => rfl
  | number x => rfl

theorem numberValue_congr {p : Param} (h : ∀ raw ∈ p.texts, env₁.SameFor env₂ raw) :
    numberValue env₁ p = numberValue env₂ p := by
  rw [numberValue.eq_def, numberValue.eq_def, scalarOf_congr h]

theorem boolValue_congr {p : Param} (h : ∀ raw ∈ p.texts, env₁.SameFor env₂ raw) :
    boolValue env₁ p = boolValue env₂ p := by
  rw [boolValue.eq_def, boolValue.eq_def, scalarOf_congr h]

theorem optionalNumber_congr {p : Option Param}
    (h : ∀ raw ∈ Param.optionalTexts p, env₁.SameFor env₂ raw) :
    optionalNumber env₁ p = optionalNumber env₂ p := by
  cases p with
  | none => rfl
  | some p => rw [optionalNumber, optionalNumber, numberValue_congr h]

theorem switch_congr {p : Option Param}
    (h : ∀ raw ∈ Param.optionalTexts p, env₁.SameFor env₂ raw) :
    switch env₁ p = switch env₂ p := by
  cases p with
  | none => rfl
  | some p => exact boolValue_congr h

theorem optionalText_congr {raw : Option String}
    (h : ∀ r ∈ raw.toList, env₁.SameFor env₂ r) :
    optionalText env₁ raw = optionalText env₂ raw := by
  cases raw with
  | none => rfl
  | some raw =>
    rw [optionalText, optionalText, textValue_congr (h raw (List.mem_singleton.2 rfl))]

theorem texts_congr {raws : List String} (h : ∀ raw ∈ raws, env₁.SameFor env₂ raw) :
    texts env₁ raws = texts env₂ raws := by
  induction raws with
  | nil => rfl
  | cons raw rest ih =>
    rw [List.forall_mem_cons] at h
    rw [texts, texts, textValue_congr h.1, ih h.2]

theorem optionalTexts_congr {raws : Option (List String)}
    (h : ∀ raw ∈ raws.getD [], env₁.SameFor env₂ raw) :
    optionalTexts env₁ raws = optionalTexts env₂ raws := by
  cases raws with
  | none => rfl
  | some raws =>
    rw [Option.getD_some] at h
    rw [optionalTexts, optionalTexts, texts_congr h]

theorem item_congr {i : TransferItem} (h : ∀ raw ∈ i.texts, env₁.SameFor env₂ raw) :
    item env₁ i = item env₂ i := by
  cases i with
  | same name => rw [item, item, textValue_congr (h name (List.mem_singleton.2 rfl))]
  | mapped source target =>
    rw [TransferItem.texts, List.forall_mem_cons, List.forall_mem_singleton] at h
    rw [item, item, textValue_congr h.1, textValue_congr h.2]

theorem items_congr {is : List TransferItem}
    (h : ∀ raw ∈ is.flatMap TransferItem.texts, env₁.SameFor env₂ raw) :
    items env₁ is = items env₂ is := by
  induction is with
  | nil => rfl
  | cons i rest ih =>
    rw [List.flatMap_cons, List.forall_mem_append] at h
    rw [items, items, item_congr h.1, ih h.2]

theorem allowance_congr {batches records : Option Param}
    (hbatches : ∀ raw ∈ Param.optionalTexts batches, env₁.SameFor env₂ raw)
    (hrecords : ∀ raw ∈ Param.optionalTexts records, env₁.SameFor env₂ raw) :
    allowance env₁ batches records = allowance env₂ batches records := by
  rw [allowance, allowance, optionalNumber_congr hbatches, optionalNumber_congr hrecords]

end Store

namespace StepKind
open Store
variable {env₁ env₂ : Environment}

theorem withText_congr {command : String → Platform.Command} {raw : String}
    (h : ∀ r ∈ [raw], env₁.SameFor env₂ r) :
    withText env₁ command raw = withText env₂ command raw := by
  rw [withText, withText, textValue_congr (h raw (List.mem_singleton.2 rfl))]

theorem withTexts_congr {command : String → String → Platform.Command} {first second : String}
    (h : ∀ raw ∈ [first, second], env₁.SameFor env₂ raw) :
    withTexts env₁ command first second = withTexts env₂ command first second := by
  rw [List.forall_mem_cons, List.forall_mem_singleton] at h
  rw [withTexts, withTexts, textValue_congr h.1, textValue_congr h.2]

/-- Environments that agree wherever the texts of a step refer to are the same to
it. -/
theorem resolve_congr {kind : StepKind} (h : ∀ raw ∈ kind.texts, env₁.SameFor env₂ raw) :
    kind.resolve env₁ = kind.resolve env₂ := by
  cases kind with
  | changeSet p =>
    simp only [texts, List.forall_mem_append, List.forall_mem_cons] at h
    obtain ⟨⟨⟨hhead, hbase, hdir, -⟩, hcreate⟩, hrevert⟩ := h
    simp only [resolve, ofChangeSet, textValue_congr hhead, textValue_congr hbase,
      textValue_congr hdir, switch_congr hcreate, optionalText_congr hrevert]
  | transfer p =>
    simp only [texts, List.forall_mem_append, List.forall_mem_cons] at h
    obtain ⟨⟨⟨⟨⟨⟨hsource, htarget, hid, -⟩, hobject⟩, hfields⟩, hfilter⟩, hbatches⟩, hrecords⟩ := h
    simp only [resolve, ofTransfer, textValue_congr hsource, textValue_congr htarget,
      textValue_congr hid, item_congr hobject, items_congr hfields, optionalText_congr hfilter,
      allowance_congr hbatches hrecords]
  | authAccessToken p =>
    simp only [texts, List.forall_mem_cons] at h
    obtain ⟨hname, hurl, htoken, -⟩ := h
    simp only [resolve, ofAccessToken, textValue_congr hname, textValue_congr hurl,
      textValue_congr htoken]
  | authList => rfl
  | authLogout p => exact withText_congr h
  | authSfdxUrl p => exact withTexts_congr h
  | apexExecute p => exact withTexts_congr h
  | apexTest p => exact withTexts_congr h
  | bulkDelete p =>
    simp only [texts, List.forall_mem_append, List.forall_mem_cons] at h
    obtain ⟨⟨⟨horg, hcsv, hobject, -⟩, hbatches⟩, hrecords⟩ := h
    simp only [resolve, ofBulkDelete, textValue_congr horg, textValue_congr hcsv,
      textValue_congr hobject, allowance_congr hbatches hrecords]
  | bulkUpsert p =>
    simp only [texts, List.forall_mem_append, List.forall_mem_cons] at h
    obtain ⟨⟨⟨horg, hcsv, hid, hobject, -⟩, hbatches⟩, hrecords⟩ := h
    simp only [resolve, ofBulkUpsert, textValue_congr horg, textValue_congr hcsv,
      textValue_congr hid, textValue_congr hobject, allowance_congr hbatches hrecords]
  | treeImport p => exact withTexts_congr h
  | queryCsv p =>
    simp only [texts, List.forall_mem_append, List.forall_mem_cons] at h
    obtain ⟨⟨⟨horg, hcsv, hobject, -⟩, hfields⟩, hfilter⟩ := h
    simp only [resolve, ofQueryCsv, textValue_congr horg, textValue_congr hcsv,
      textValue_congr hobject, texts_congr hfields, optionalText_congr hfilter]
  | deploy p =>
    simp only [texts, List.forall_mem_append, List.forall_mem_cons] at h
    obtain ⟨⟨⟨⟨horg, -⟩, hcheck⟩, hdir⟩, hzip⟩ := h
    simp only [resolve, ofDeploy, textValue_congr horg, switch_congr hcheck,
      optionalText_congr hdir, optionalText_congr hzip]
  | retrieve p =>
    simp only [texts, List.forall_mem_append, List.forall_mem_cons] at h
    obtain ⟨⟨⟨horg, hdir, -⟩, hmanifest⟩, hpackages⟩ := h
    simp only [resolve, ofRetrieve, textValue_congr horg, textValue_congr hdir,
      optionalText_congr hmanifest, optionalTexts_congr hpackages]
  | createScratchOrg p =>
    simp only [texts, List.forall_mem_append, List.forall_mem_cons] at h
    obtain ⟨⟨⟨⟨hname, hfile, hhub, -⟩, hancestors⟩, hdays⟩, hemail⟩ := h
    simp only [resolve, ofScratchOrg, textValue_congr hname, textValue_congr hfile,
      textValue_congr hhub, switch_congr hancestors, optionalNumber_congr hdays,
      optionalText_congr hemail]
  | deleteOrg p => exact withTexts_congr h
  | displayOrg p => exact withText_congr h
  | installPackage p => exact withTexts_congr h
  | pushSource p =>
    simp only [texts, List.forall_mem_append, List.forall_mem_cons] at h
    obtain ⟨⟨horg, -⟩, hforce⟩ := h
    simp only [resolve, textValue_congr horg, switch_congr hforce]
  | unsupported type => rfl

end StepKind
end OrgPipeline
