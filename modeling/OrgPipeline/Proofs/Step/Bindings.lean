import OrgPipeline.Step.Task

/-!
# What resolving parameters does to the store

Parameters are resolved against the store, which keeps its inputs, its
variables and its records. Only diagnostics are added, at the end.
-/

set_option autoImplicit false

namespace OrgPipeline

namespace Store
variable {α β : Type}

def Notes (b : Binding α) : Prop :=
  ∀ s, ∃ ds, (b s).2 = { s with diagnostics := s.diagnostics ++ ds }

theorem notes_pure (x : α) : Notes (pure x) := by
  intro s
  exact ⟨[], by rw [List.append_nil]; rfl⟩

theorem notes_bind {b : Binding α} {f : α → Binding β} (hb : Notes b) (hf : ∀ x, Notes (f x)) :
    Notes (b >>= f) := by
  intro s
  obtain ⟨ds, hds⟩ := hb s
  obtain ⟨es, hes⟩ := hf (b s).1 (b s).2
  refine ⟨ds ++ es, ?_⟩
  change (f (b s).1 (b s).2).2 = _
  rw [hes, hds, List.append_assoc]

theorem notes_note (expression : String) (kind : DiagnosticKind) : Notes (note expression kind) :=
  fun _ => ⟨[⟨expression, kind⟩], rfl⟩

theorem notes_get : Notes (get : Binding Store) := by
  intro s
  exact ⟨[], by rw [List.append_nil]; rfl⟩

theorem notes_resolve (env : Environment) (raw : String) : Notes (resolve env raw) := by
  unfold resolve
  split
  · exact notes_pure _
  · exact notes_bind (notes_note _ _) fun _ => notes_pure _
  · exact notes_bind notes_get fun _ => notes_pure _

theorem notes_textValue (env : Environment) (raw : String) : Notes (textValue env raw) := by
  apply notes_bind (notes_resolve env raw)
  intro value
  cases value with
  | some value => exact notes_pure value
  | none => exact notes_bind (notes_note _ _) fun _ => notes_pure _

theorem notes_scalarOf (env : Environment) (p : Param) : Notes (scalarOf env p) := by
  cases p with
  | text s => exact notes_resolve env s
  | bool b => exact notes_pure _
  | number x => exact notes_pure _

theorem notes_numberValue (env : Environment) (p : Param) : Notes (numberValue env p) := by
  unfold numberValue
  split
  · exact notes_pure _
  · apply notes_bind (notes_scalarOf env p)
    intro value
    cases numberIn value with
    | some x => exact notes_pure x
    | none => exact notes_bind (notes_note _ _) fun _ => notes_pure _

theorem notes_boolValue (env : Environment) (p : Param) : Notes (boolValue env p) := by
  unfold boolValue
  split
  · exact notes_pure _
  · apply notes_bind (notes_scalarOf env p)
    intro value
    cases boolIn value with
    | some b => exact notes_pure b
    | none => exact notes_bind (notes_note _ _) fun _ => notes_pure _

def KeepsOutputs (b : Binding α) : Prop := ∀ s, (b s).2.outputs = s.outputs

theorem keepsOutputs_of_notes {b : Binding α} (h : Notes b) : KeepsOutputs b := by
  intro s
  obtain ⟨ds, hds⟩ := h s
  rw [hds]

theorem keepsOutputs_bind {b : Binding α} {f : α → Binding β} (hb : KeepsOutputs b)
    (hf : ∀ x, KeepsOutputs (f x)) : KeepsOutputs (b >>= f) := by
  intro s
  have h := hf (b s).1 (b s).2
  rw [hb s] at h
  exact h

theorem notes_suppliedScalar (env : Environment) (v : Json) : Notes (suppliedScalar env v) := by
  unfold suppliedScalar
  split
  · exact notes_resolve env _
  · exact notes_pure _

theorem keepsOutputs_setInput (env : Environment) (input : InputDeclaration)
    (supplied : Option Json) : KeepsOutputs (setInput env input supplied) := by
  have hset (value : Option String) : KeepsOutputs
      (modify fun s => { s with inputs := s.inputs.insert input.id value } : Binding Unit) :=
    fun _ => rfl
  unfold setInput
  split
  · exact keepsOutputs_bind (keepsOutputs_of_notes (notes_suppliedScalar env _)) hset
  · split
    · exact keepsOutputs_bind (keepsOutputs_of_notes (notes_scalarOf env _)) hset
    · exact keepsOutputs_bind (keepsOutputs_of_notes (notes_pure none)) hset

theorem keepsOutputs_setVariables (env : Environment) (vars : List VariableDeclaration) :
    KeepsOutputs (setVariables env vars) := by
  induction vars with
  | nil => exact fun _ => rfl
  | cons v rest ih =>
    have hset (value : Option String) : KeepsOutputs
        (modify fun s => { s with vars := s.vars.insert v.id value } : Binding Unit) :=
      fun _ => rfl
    have hvariable : KeepsOutputs (setVariable env v) :=
      keepsOutputs_bind (keepsOutputs_of_notes (notes_scalarOf env v.value)) hset
    exact keepsOutputs_bind hvariable fun _ => ih

theorem notes_optionalNumber (env : Environment) (raw : Option Param) :
    Notes (optionalNumber env raw) := by
  cases raw with
  | none => exact notes_pure none
  | some p => exact notes_bind (notes_numberValue env p) fun _ => notes_pure _

theorem notes_switch (env : Environment) (raw : Option Param) : Notes (switch env raw) := by
  cases raw with
  | none => exact notes_pure false
  | some p => exact notes_boolValue env p

theorem notes_optionalText (env : Environment) (raw : Option String) :
    Notes (optionalText env raw) := by
  cases raw with
  | none => exact notes_pure none
  | some raw => exact notes_bind (notes_textValue env raw) fun _ => notes_pure _

theorem notes_texts (env : Environment) (raws : List String) : Notes (texts env raws) := by
  induction raws with
  | nil => exact notes_pure []
  | cons raw rest ih =>
    exact notes_bind (notes_textValue env raw) fun _ => notes_bind ih fun _ => notes_pure _

theorem notes_optionalTexts (env : Environment) (raws : Option (List String)) :
    Notes (optionalTexts env raws) := by
  cases raws with
  | none => exact notes_pure none
  | some raws => exact notes_bind (notes_texts env raws) fun _ => notes_pure _

theorem notes_item (env : Environment) (raw : TransferItem) : Notes (item env raw) := by
  cases raw with
  | same name => exact notes_bind (notes_textValue env name) fun _ => notes_pure _
  | mapped source target =>
    exact notes_bind (notes_textValue env source) fun _ =>
      notes_bind (notes_textValue env target) fun _ => notes_pure _

theorem notes_items (env : Environment) (raws : List TransferItem) : Notes (items env raws) := by
  induction raws with
  | nil => exact notes_pure []
  | cons raw rest ih =>
    exact notes_bind (notes_item env raw) fun _ => notes_bind ih fun _ => notes_pure _

theorem notes_allowance (env : Environment) (batches records : Option Param) :
    Notes (allowance env batches records) :=
  notes_bind (notes_optionalNumber env batches) fun _ =>
    notes_bind (notes_optionalNumber env records) fun _ => notes_pure _

end Store

namespace StepKind

open Store

theorem notes_withText (env : Environment) (command : String → Platform.Command) (raw : String) :
    Notes (withText env command raw) :=
  notes_bind (notes_textValue env raw) fun _ => notes_pure _

theorem notes_withTexts (env : Environment) (command : String → String → Platform.Command)
    (first second : String) : Notes (withTexts env command first second) :=
  notes_bind (notes_textValue env first) fun _ =>
    notes_bind (notes_textValue env second) fun _ => notes_pure _

/-- Whatever the kind of a step, its parameters leave the store but for
diagnostics. -/
theorem notes_task (env : Environment) (kind : StepKind) : Notes (kind.resolve env) := by
  cases kind with
  | changeSet p =>
    exact notes_bind (notes_textValue env p.headSha) fun _ =>
      notes_bind (notes_textValue env p.baseSha) fun _ =>
      notes_bind (notes_textValue env p.dir) fun _ =>
      notes_bind (notes_switch env p.createRevert) fun _ =>
      notes_bind (notes_optionalText env p.revertDir) fun _ => notes_pure _
  | transfer p =>
    exact notes_bind (notes_textValue env p.sourceOrg) fun _ =>
      notes_bind (notes_textValue env p.targetOrg) fun _ =>
      notes_bind (notes_item env p.object) fun _ =>
      notes_bind (notes_items env p.fields) fun _ =>
      notes_bind (notes_optionalText env p.filter) fun _ =>
      notes_bind (notes_textValue env p.externalId) fun _ =>
      notes_bind (notes_allowance env p.failedBatches p.failedRecords) fun _ => notes_pure _
  | authAccessToken p =>
    exact notes_bind (notes_textValue env p.name) fun _ =>
      notes_bind (notes_textValue env p.instanceUrl) fun _ =>
      notes_bind (notes_textValue env p.accessToken) fun _ => notes_pure _
  | authList => exact notes_pure _
  | authLogout p => exact notes_withText env _ p.org
  | authSfdxUrl p => exact notes_withTexts env _ p.name p.file
  | apexExecute p => exact notes_withTexts env _ p.org p.codeFile
  | apexTest p => exact notes_withTexts env _ p.org p.outputDir
  | bulkDelete p =>
    exact notes_bind (notes_textValue env p.org) fun _ =>
      notes_bind (notes_textValue env p.csvFile) fun _ =>
      notes_bind (notes_textValue env p.object) fun _ =>
      notes_bind (notes_allowance env p.failedBatches p.failedRecords) fun _ => notes_pure _
  | bulkUpsert p =>
    exact notes_bind (notes_textValue env p.org) fun _ =>
      notes_bind (notes_textValue env p.csvFile) fun _ =>
      notes_bind (notes_textValue env p.externalId) fun _ =>
      notes_bind (notes_textValue env p.object) fun _ =>
      notes_bind (notes_allowance env p.failedBatches p.failedRecords) fun _ => notes_pure _
  | treeImport p => exact notes_withTexts env _ p.org p.planFile
  | queryCsv p =>
    exact notes_bind (notes_textValue env p.org) fun _ =>
      notes_bind (notes_textValue env p.csvFile) fun _ =>
      notes_bind (notes_textValue env p.object) fun _ =>
      notes_bind (notes_texts env p.fields) fun _ =>
      notes_bind (notes_optionalText env p.filter) fun _ => notes_pure _
  | deploy p =>
    exact notes_bind (notes_textValue env p.org) fun _ =>
      notes_bind (notes_switch env p.checkOnly) fun _ =>
      notes_bind (notes_optionalText env p.dir) fun _ =>
      notes_bind (notes_optionalText env p.zip) fun _ => notes_pure _
  | retrieve p =>
    exact notes_bind (notes_textValue env p.org) fun _ =>
      notes_bind (notes_textValue env p.targetDir) fun _ =>
      notes_bind (notes_optionalText env p.manifest) fun _ =>
      notes_bind (notes_optionalTexts env p.packages) fun _ => notes_pure _
  | createScratchOrg p =>
    exact notes_bind (notes_textValue env p.name) fun _ =>
      notes_bind (notes_switch env p.noAncestors) fun _ =>
      notes_bind (notes_textValue env p.definitionFile) fun _ =>
      notes_bind (notes_textValue env p.devHub) fun _ =>
      notes_bind (notes_optionalNumber env p.duration) fun _ =>
      notes_bind (notes_optionalText env (p.override.bind (·.adminEmail))) fun _ =>
        notes_pure _
  | deleteOrg p => exact notes_withTexts env _ p.org p.devHub
  | displayOrg p => exact notes_withText env _ p.org
  | installPackage p => exact notes_withTexts env _ p.org p.package
  | pushSource p =>
    exact notes_bind (notes_textValue env p.org) fun _ =>
      notes_bind (notes_switch env p.forceOverwrite) fun _ => notes_pure _
  | unsupported type => exact notes_pure _

end StepKind
end OrgPipeline
