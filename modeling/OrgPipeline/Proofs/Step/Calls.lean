import OrgPipeline.Proofs.Store.Accessors
import OrgPipeline.Step.Task

/-!
# The calls by which parameters are read

Whatever the kind of a step, its parameters are read by a fixed list of calls of the
accessors, in an order that does not hang on their answers. A call adds its diagnostics
to the store, and of these one is of the accessor's own kind if the call fell back to
the default.
-/

set_option autoImplicit false

namespace OrgPipeline

inductive Reading where
  | text (raw : String)
  | number (p : Param)
  | boolean (p : Param)

namespace Reading
open Store

def param : Reading → Param
  | text raw => raw
  | number p => p
  | boolean p => p

def kind : Reading → DiagnosticKind
  | text _ => .unresolved
  | number _ => .notANumber
  | boolean _ => .notABoolean

def ownNote (r : Reading) : Diagnostic := ⟨r.param.scalar, r.kind⟩

def FallsBack (env : Environment) (s : Store) : Reading → Prop
  | text raw => ∀ v, ¬ s.DenotesText env raw v
  | number p => ∀ x, ¬ s.DenotesNumber env p x
  | boolean p => ∀ b, ¬ s.DenotesBool env p b

def after (env : Environment) (s : Store) : Reading → Store
  | text raw => (textValue env raw s).2
  | number p => (numberValue env p s).2
  | boolean p => (boolValue env p s).2

theorem forall_not_iff_isNone {α : Type} {Denotes : α → Prop} {value : Option α}
    (h : ∀ v, Denotes v ↔ value = some v) : (∀ v, ¬ Denotes v) ↔ value.isNone = true := by
  simp only [h, Option.isNone_iff_eq_none, Option.eq_none_iff_forall_ne_some, ne_eq]

def missed (env : Environment) (s : Store) : Reading → Bool
  | text raw => (s.meaning env raw).isNone
  | number p => (s.number? env p).isNone
  | boolean p => (s.bool? env p).isNone

theorem fallsBack_iff (env : Environment) (s : Store) (r : Reading) :
    r.FallsBack env s ↔ r.missed env s = true := by
  cases r with
  | text raw => exact forall_not_iff_isNone fun _ => denotesText_iff
  | number p => exact forall_not_iff_isNone fun _ => denotesNumber_iff
  | boolean p => exact forall_not_iff_isNone fun _ => denotesBool_iff

instance (env : Environment) (s : Store) (r : Reading) : Decidable (r.FallsBack env s) :=
  decidable_of_iff' _ (fallsBack_iff env s r)

def notes (env : Environment) (s : Store) (r : Reading) : List Diagnostic :=
  if r.FallsBack env s then fallbackNotes r.param r.kind else []

theorem after_eq (env : Environment) (s : Store) (r : Reading) :
    r.after env s = s.noted (r.notes env s) := by
  cases r with
  | text raw =>
    rw [after, textValue_eq]
    exact answer_store (fallsBack_iff env s _) s _ _ _
  | number p =>
    rw [after, numberValue_eq]
    exact answer_store (fallsBack_iff env s _) s _ _ _
  | boolean p =>
    rw [after, boolValue_eq]
    exact answer_store (fallsBack_iff env s _) s _ _ _

theorem filter_notes (env : Environment) (s : Store) (r : Reading) {kind : DiagnosticKind}
    (hkind : kind ≠ .unknownNamespace) :
    (r.notes env s).filter (·.kind = kind) =
      if r.kind = kind ∧ r.FallsBack env s then [r.ownNote] else [] := by
  have hunknown : r.param.unknownNotes.filter (·.kind = kind) = [] := by
    unfold Param.unknownNotes
    split
    · simp [hkind.symm]
    · rfl
  rw [notes]
  by_cases hfalls : r.FallsBack env s
  · rw [if_pos hfalls, fallbackNotes, List.filter_append, hunknown, List.nil_append]
    by_cases hr : r.kind = kind
    · rw [if_pos ⟨hr, hfalls⟩]
      simp [hr, ownNote]
    · rw [if_neg (fun h => hr h.1)]
      simp [hr]
  · rw [if_neg hfalls, if_neg (fun h => hfalls h.2)]
    rfl

end Reading

structure Visit where
  reading : Reading
  store : Store

namespace Visit

def FallsBack (env : Environment) (v : Visit) : Prop := v.reading.FallsBack env v.store

instance (env : Environment) (v : Visit) : Decidable (v.FallsBack env) :=
  inferInstanceAs (Decidable (v.reading.FallsBack env v.store))

def notes (env : Environment) (v : Visit) : List Diagnostic := v.reading.notes env v.store

def Defaulted (env : Environment) (kind : DiagnosticKind) (v : Visit) : Prop :=
  v.reading.kind = kind ∧ v.FallsBack env

instance (env : Environment) (kind : DiagnosticKind) (v : Visit) :
    Decidable (v.Defaulted env kind) :=
  inferInstanceAs (Decidable (_ ∧ _))

theorem filter_flatMap_notes (env : Environment) {kind : DiagnosticKind}
    (hkind : kind ≠ .unknownNamespace) (visits : List Visit) :
    (visits.flatMap (notes env)).filter (·.kind = kind) =
      (visits.filter (·.Defaulted env kind)).map (·.reading.ownNote) := by
  induction visits with
  | nil => rfl
  | cons v rest ih =>
    rw [List.flatMap_cons, List.filter_append, ih, notes, v.reading.filter_notes env v.store hkind]
    by_cases hv : v.Defaulted env kind
    · rw [List.filter_cons_of_pos (by simpa using hv)]
      exact congrArg (· ++ _) (if_pos hv)
    · rw [List.filter_cons_of_neg (by simpa using hv)]
      exact congrArg (· ++ _) (if_neg hv)

end Visit

namespace Reading

def visits (env : Environment) : List Reading → Store → List Visit
  | [], _ => []
  | r :: rest, s => ⟨r, s⟩ :: visits env rest (r.after env s)

theorem foldl_after (env : Environment) (readings : List Reading) (s : Store) :
    readings.foldl (Reading.after env) s =
      s.noted ((visits env readings s).flatMap (Visit.notes env)) := by
  induction readings generalizing s with
  | nil => exact (Store.noted_nil s).symm
  | cons r rest ih =>
    rw [List.foldl_cons, ih, visits, List.flatMap_cons, Visit.notes, after_eq, Store.noted_noted]

end Reading

/-- The binding makes these calls of the accessors, in this order, whatever they answer,
and uses the store for nothing else. -/
inductive Makes (env : Environment) : {α : Type} → Binding α → List Reading → Prop
  | done {α : Type} (x : α) : Makes env (pure x) []
  | text {α : Type} {f : String → Binding α} {rest : List Reading} (raw : String)
      (h : ∀ v, Makes env (f v) rest) :
      Makes env (Store.textValue env raw >>= f) (.text raw :: rest)
  | number {α : Type} {f : Float → Binding α} {rest : List Reading} (p : Param)
      (h : ∀ x, Makes env (f x) rest) :
      Makes env (Store.numberValue env p >>= f) (.number p :: rest)
  | boolean {α : Type} {f : Bool → Binding α} {rest : List Reading} (p : Param)
      (h : ∀ b, Makes env (f b) rest) :
      Makes env (Store.boolValue env p >>= f) (.boolean p :: rest)

namespace Makes
open Store
variable {env : Environment} {α β : Type}

theorem store {b : Binding α} {readings : List Reading} (h : Makes env b readings) (s : Store) :
    (b s).2 = readings.foldl (Reading.after env) s := by
  induction h generalizing s with
  | done x => rfl
  | text raw h ih => exact ih _ _
  | number p h ih => exact ih _ _
  | boolean p h ih => exact ih _ _

theorem bind {b : Binding α} {f : α → Binding β} {first rest : List Reading}
    (hb : Makes env b first) (hf : ∀ x, Makes env (f x) rest) :
    Makes env (b >>= f) (first ++ rest) := by
  induction hb with
  | done x => exact hf x
  | text raw h ih => exact .text raw fun v => ih v
  | number p h ih => exact .number p fun x => ih x
  | boolean p h ih => exact .boolean p fun b => ih b

theorem textValue (raw : String) : Makes env (textValue env raw) [.text raw] :=
  bind_pure (Store.textValue env raw) ▸ Makes.text raw fun v => .done v

theorem numberValue (p : Param) : Makes env (numberValue env p) [.number p] :=
  bind_pure (Store.numberValue env p) ▸ Makes.number p fun x => .done x

theorem boolValue (p : Param) : Makes env (boolValue env p) [.boolean p] :=
  bind_pure (Store.boolValue env p) ▸ Makes.boolean p fun b => .done b

theorem map {b : Binding α} {readings : List Reading} (hb : Makes env b readings) (g : α → β) :
    Makes env (b >>= fun x => pure (g x)) readings := by
  have h := hb.bind fun x => Makes.done (g x)
  rwa [List.append_nil] at h

end Makes

namespace Reading

def ofItem : TransferItem → List Reading
  | .same name => [.text name]
  | .mapped source target => [.text source, .text target]

def texts? (raw : Option String) : List Reading := raw.toList.map text
def numbers? (p : Option Param) : List Reading := p.toList.map number
def booleans? (p : Option Param) : List Reading := p.toList.map boolean

end Reading

def StepKind.readings : StepKind → List Reading
  | .changeSet p =>
    .text p.headSha :: .text p.baseSha :: .text p.dir ::
      (Reading.booleans? p.createRevert ++ Reading.texts? p.revertDir)
  | .transfer p =>
    .text p.sourceOrg :: .text p.targetOrg ::
      (Reading.ofItem p.object ++ (p.fields.flatMap Reading.ofItem ++
        (Reading.texts? p.filter ++ .text p.externalId ::
          (Reading.numbers? p.failedBatches ++ Reading.numbers? p.failedRecords))))
  | .authAccessToken p => [.text p.name, .text p.instanceUrl, .text p.accessToken]
  | .authList => []
  | .authLogout p => [.text p.org]
  | .authSfdxUrl p => [.text p.name, .text p.file]
  | .apexExecute p => [.text p.org, .text p.codeFile]
  | .apexTest p => [.text p.org, .text p.outputDir]
  | .bulkDelete p =>
    .text p.org :: .text p.csvFile :: .text p.object ::
      (Reading.numbers? p.failedBatches ++ Reading.numbers? p.failedRecords)
  | .bulkUpsert p =>
    .text p.org :: .text p.csvFile :: .text p.externalId :: .text p.object ::
      (Reading.numbers? p.failedBatches ++ Reading.numbers? p.failedRecords)
  | .treeImport p => [.text p.org, .text p.planFile]
  | .queryCsv p =>
    .text p.org :: .text p.csvFile :: .text p.object ::
      (p.fields.map Reading.text ++ Reading.texts? p.filter)
  | .deploy p =>
    .text p.org :: (Reading.booleans? p.checkOnly ++
      (Reading.texts? p.dir ++ Reading.texts? p.zip))
  | .retrieve p =>
    .text p.org :: .text p.targetDir ::
      (Reading.texts? p.manifest ++ (p.packages.getD []).map Reading.text)
  | .createScratchOrg p =>
    .text p.name :: (Reading.booleans? p.noAncestors ++ .text p.definitionFile ::
      .text p.devHub :: (Reading.numbers? p.duration ++
        Reading.texts? (p.override.bind (·.adminEmail))))
  | .deleteOrg p => [.text p.org, .text p.devHub]
  | .displayOrg p => [.text p.org]
  | .installPackage p => [.text p.org, .text p.package]
  | .pushSource p => .text p.org :: Reading.booleans? p.forceOverwrite
  | .unsupported _ => []

namespace Makes
open Store
variable {env : Environment}

theorem switch (p : Option Param) : Makes env (switch env p) (Reading.booleans? p) := by
  cases p with
  | none => exact .done false
  | some p => exact .boolValue p

theorem optionalNumber (p : Option Param) :
    Makes env (optionalNumber env p) (Reading.numbers? p) := by
  cases p with
  | none => exact .done none
  | some p => exact (Makes.numberValue p).map some

theorem optionalText (raw : Option String) :
    Makes env (optionalText env raw) (Reading.texts? raw) := by
  cases raw with
  | none => exact .done none
  | some raw => exact (Makes.textValue raw).map _

theorem texts (raws : List String) : Makes env (texts env raws) (raws.map .text) := by
  induction raws with
  | nil => exact .done []
  | cons raw rest ih => exact .text raw fun v => ih.map (v :: ·)

theorem optionalTexts (raws : Option (List String)) :
    Makes env (optionalTexts env raws) ((raws.getD []).map .text) := by
  cases raws with
  | none => exact .done none
  | some raws => exact (Makes.texts raws).map some

theorem item (i : TransferItem) : Makes env (item env i) (Reading.ofItem i) := by
  cases i with
  | same name => exact (Makes.textValue name).map TransferItem.same
  | mapped source target =>
    exact .text source fun v => (Makes.textValue target).map (TransferItem.mapped v)

theorem items (is : List TransferItem) : Makes env (items env is) (is.flatMap Reading.ofItem) := by
  induction is with
  | nil => exact .done []
  | cons i rest ih => exact (Makes.item i).bind fun v => ih.map (v :: ·)

theorem allowance (batches records : Option Param) :
    Makes env (allowance env batches records)
      (Reading.numbers? batches ++ Reading.numbers? records) :=
  (Makes.optionalNumber batches).bind fun b =>
    (Makes.optionalNumber records).map (BulkAllowance.mk b)

theorem withText (command : String → Platform.Command) (raw : String) :
    Makes env (StepKind.withText env command raw) [.text raw] :=
  (Makes.textValue raw).map _

theorem withTexts (command : String → String → Platform.Command) (first second : String) :
    Makes env (StepKind.withTexts env command first second) [.text first, .text second] :=
  .text first fun _ => (Makes.textValue second).map _

/-- Whatever the kind of a step, its parameters are read by these calls. -/
theorem resolve (kind : StepKind) : Makes env (kind.resolve env) kind.readings := by
  cases kind with
  | changeSet p =>
    exact .text _ fun _ => .text _ fun _ => .text _ fun _ =>
      (Makes.switch _).bind fun _ => (Makes.optionalText _).map _
  | transfer p =>
    exact .text _ fun _ => .text _ fun _ => (Makes.item _).bind fun _ =>
      (Makes.items _).bind fun _ => (Makes.optionalText _).bind fun _ => .text _ fun _ =>
      (Makes.allowance _ _).map _
  | authAccessToken p => exact .text _ fun _ => .text _ fun _ => (Makes.textValue _).map _
  | authList => exact .done _
  | authLogout p => exact .withText _ _
  | authSfdxUrl p => exact .withTexts _ _ _
  | apexExecute p => exact .withTexts _ _ _
  | apexTest p => exact .withTexts _ _ _
  | bulkDelete p =>
    exact .text _ fun _ => .text _ fun _ => .text _ fun _ => (Makes.allowance _ _).map _
  | bulkUpsert p =>
    exact .text _ fun _ => .text _ fun _ => .text _ fun _ => .text _ fun _ =>
      (Makes.allowance _ _).map _
  | treeImport p => exact .withTexts _ _ _
  | queryCsv p =>
    exact .text _ fun _ => .text _ fun _ => .text _ fun _ =>
      (Makes.texts _).bind fun _ => (Makes.optionalText _).map _
  | deploy p =>
    exact .text _ fun _ => (Makes.switch _).bind fun _ =>
      (Makes.optionalText _).bind fun _ => (Makes.optionalText _).map _
  | retrieve p =>
    exact .text _ fun _ => .text _ fun _ => (Makes.optionalText _).bind fun _ =>
      (Makes.optionalTexts _).map _
  | createScratchOrg p =>
    exact .text _ fun _ => (Makes.switch _).bind fun _ => .text _ fun _ => .text _ fun _ =>
      (Makes.optionalNumber _).bind fun _ => (Makes.optionalText _).map _
  | deleteOrg p => exact .withTexts _ _ _
  | displayOrg p => exact .withText _ _
  | installPackage p => exact .withTexts _ _ _
  | pushSource p => exact .text _ fun _ => (Makes.switch _).map _
  | unsupported type => exact .done _

end Makes

end OrgPipeline
