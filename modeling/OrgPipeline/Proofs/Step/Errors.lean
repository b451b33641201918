import OrgPipeline.Step.Task
import OrgPipeline.Proofs.Sequence

/-!
# Errors that nobody explains

Every error a step ends in names its cause, unless a tool has answered it: the
one error of the code for the unexpected belongs to kinds without a handler,
and a step with a handler never comes to it. Nor does a step miss the pipeline that
it belongs to.
-/

set_option autoImplicit false

namespace OrgPipeline
open Sequence

def Tools.Answers (tools : Tools) (e : Error) : Prop :=
  (∃ command w, (tools.platform command w).1 = .error e) ∨
    ∃ command w, (tools.repository command w).1 = .error e

def Explained (tools : Tools) (e : Error) : Prop :=
  e.code = .internalUnexpected → tools.Answers e

def Error.Ordinary (e : Error) : Prop :=
  e.code ≠ .internalUnexpected ∧ e.code ≠ .engineNotLoaded

def Foreseen (tools : Tools) (e : Error) : Prop := e.Ordinary ∨ tools.Answers e

theorem Foreseen.explained {tools : Tools} {e : Error} (h : Foreseen tools e) :
    Explained tools e := by
  intro hcode
  rcases h with hordinary | hanswers
  · exact absurd hcode hordinary.1
  · exact hanswers

section

variable {tools : Tools} {α β : Type}

theorem raises_foreseen {a : Action α} (h : Raises Error.Ordinary a) :
    Raises (Foreseen tools) a :=
  h.mono fun _ => Or.inl

theorem raises_cause {c : Cause} (h : Error.Ordinary (.ofCause c)) :
    Raises Error.Ordinary (throw (.ofCause c) : Action α) :=
  raises_throw h

theorem raises_platform (command : Platform.Command) :
    Raises (Foreseen tools) (tools.platform command) := by
  intro w e w' h
  exact Or.inr (Or.inl ⟨command, w, by rw [h]⟩)

theorem raises_repository (command : VersionControl.Command) :
    Raises (Foreseen tools) (tools.repository command) := by
  intro w e w' h
  exact Or.inr (Or.inr ⟨command, w, by rw [h]⟩)

theorem raises_ofExcept {P : Error → Prop} {r : Except Error α} (h : ∀ e, r = .error e → P e) :
    Raises P (Action.ofExcept r) := by
  intro w e w' hr
  exact h e (congrArg Prod.fst hr)

theorem raises_ofFiles (context : String) (operation : Place → FileAction α) :
    Raises Error.Ordinary (Action.ofFiles context operation) := by
  intro w e w' h
  unfold Action.ofFiles at h
  rcases ho : operation w.here w.files with ⟨r, f⟩
  rw [ho] at h
  cases r with
  | ok a => cases h
  | error problem =>
    cases h
    exact ⟨nofun, nofun⟩

theorem raises_askFiles {P : Error → Prop} (question : Place → Files → α) :
    Raises P (Action.askFiles question) := by
  intro w e w' h
  cases h

theorem raises_freshNumber {P : Error → Prop} : Raises P Action.freshNumber := by
  intro w e w' h
  cases h

theorem raises_attempt_bind {P : Error → Prop} {a : Action α} {f : Except Error α → Action β}
    (ha : Raises P a) (hok : ∀ x, Raises P (f (.ok x)))
    (herror : ∀ e, P e → Raises P (f (.error e))) : Raises P (a.attempt >>= f) := by
  intro w e w' h
  rcases hr : a w with ⟨r, u⟩
  have hattempt : a.attempt w = (.ok r, u) := by
    unfold Action.attempt
    rw [hr]
  rw [bind_of_ok hattempt] at h
  cases r with
  | ok x => exact hok x u e w' h
  | error e' => exact herror e' (ha w e' u hr) u e w' h

theorem raises_readText (path operation : String) :
    Raises Error.Ordinary (Action.readText path operation) :=
  raises_ofFiles _ _

theorem raises_writeText (path content operation : String) :
    Raises Error.Ordinary (Action.writeText path content operation) := by
  unfold Action.writeText
  split
  · split
    · exact raises_bind (raises_ofFiles _ _) fun _ => raises_ofFiles _ _
    · exact raises_ofFiles _ _
  · exact raises_ofFiles _ _

theorem raises_remove (path operation : String) :
    Raises Error.Ordinary (Action.remove path operation) :=
  raises_bind (raises_askFiles _) fun _ => raises_ite (raises_ofFiles _ _) (raises_pure ())

theorem raises_removeDirectory (path operation : String) :
    Raises Error.Ordinary (Action.removeDirectory path operation) :=
  raises_bind (raises_askFiles _) fun _ => raises_ite (raises_ofFiles _ _) (raises_pure ())

theorem raises_loadManifest (path : String) : Raises Error.Ordinary (Manifest.load path) := by
  apply raises_bind (raises_readText _ _)
  intro text
  apply raises_ofExcept
  intro e h
  unfold Manifest.parse at h
  cases hr : Manifest.readText text.toList with
  | ok m =>
    rw [hr] at h
    cases h
  | error problem =>
    rw [hr] at h
    cases h
    exact ⟨nofun, nofun⟩

theorem raises_readSourcePaths (directory : String) :
    Raises Error.Ordinary (Project.readSourcePaths directory) := by
  have hdirectories (project : Json) (e : Error) (h : Project.directories project = .error e) :
      e.Ordinary := by
    unfold Project.directories at h
    split at h
    · cases h
    · cases h
      exact ⟨nofun, nofun⟩
  have hpaths (text : String) (e : Error) (h : Project.sourcePaths text = .error e) :
      e.Ordinary := by
    unfold Project.sourcePaths at h
    cases hr : Json.read text with
    | none =>
      simp only [hr] at h
      cases h
      exact ⟨nofun, nofun⟩
    | some project =>
      simp only [hr] at h
      cases hd : Project.directories project with
      | ok ds =>
        rw [hd] at h
        cases h
      | error e' =>
        rw [hd] at h
        cases h
        exact hdirectories project e hd
  exact raises_bind (raises_askFiles _) fun _ =>
    raises_ite (raises_bind (raises_readText _ _) fun text => raises_ofExcept (hpaths text))
      (raises_cause ⟨nofun, nofun⟩)

theorem raises_convert (project outputDir : String) :
    Raises (Foreseen tools) (ChangeSet.convert tools project outputDir) :=
  raises_bind (raises_foreseen (raises_readSourcePaths project)) fun _ =>
    raises_bind (raises_platform _) fun _ => raises_pure ()

theorem raises_revertName (r : ChangeSet.Request) :
    Raises Error.Ordinary (ChangeSet.revertName r) := by
  have hgenerated : Raises Error.Ordinary ChangeSet.revertName.generated :=
    raises_bind raises_freshNumber fun _ => raises_pure _
  unfold ChangeSet.revertName
  split
  · exact raises_ite hgenerated (raises_pure _)
  · exact hgenerated

theorem raises_writeDestructive (manifest : Option Manifest) (dir : String)
    (mode : DestructiveMode) :
    Raises Error.Ordinary (ChangeSet.writeDestructive manifest dir mode) := by
  cases manifest with
  | none => exact raises_pure ()
  | some m => exact raises_writeText _ _ _

theorem raises_create (project : String) (r : ChangeSet.Request) :
    Raises (Foreseen tools) (ChangeSet.create tools project r) :=
  raises_bind (raises_foreseen (raises_revertName r)) fun _ =>
    raises_bind (raises_repository _) fun _ =>
    raises_bind (raises_convert _ _) fun _ =>
    raises_bind (raises_repository _) fun _ =>
    raises_bind (raises_convert _ _) fun _ =>
    raises_bind (raises_foreseen (raises_loadManifest _)) fun _ =>
    raises_bind (raises_foreseen (raises_loadManifest _)) fun _ =>
    raises_bind (raises_foreseen (raises_writeDestructive _ _ _)) fun _ =>
    raises_foreseen (raises_ite
      (raises_bind (raises_writeDestructive _ _ _) fun _ => raises_pure _)
      (raises_bind (raises_removeDirectory _ _) fun _ => raises_pure _))

theorem raises_bulkCheck (operation : String) (result : Json) (allowance : BulkAllowance) :
    Raises Error.Ordinary (Action.ofExcept (Bulk.check operation result allowance)) := by
  apply raises_ofExcept
  intro e h
  unfold Bulk.check at h
  split at h
  · cases h
  · cases h
    exact ⟨nofun, nofun⟩

theorem raises_transfer (t : Transfer) (directory : String) :
    Raises (Foreseen tools) (t.run tools.platform directory) := by
  have hcopy (file : String) : Raises (Foreseen tools) (t.copy tools.platform file) :=
    raises_bind (raises_platform _) fun _ => raises_bind (raises_platform _) fun _ =>
      raises_foreseen (raises_bind (raises_bulkCheck _ _ _) fun _ => raises_pure _)
  refine raises_bind raises_freshNumber fun serial => ?_
  apply raises_attempt_bind (hcopy _)
  · intro result
    exact raises_foreseen (raises_bind (raises_remove _ _) fun _ => raises_ofExcept nofun)
  -- the error of the copy comes back once the file is gone
  · intro e he
    apply raises_bind (raises_foreseen (raises_remove _ _))
    intro _
    apply raises_ofExcept
    rintro e' ⟨⟩
    exact he

theorem raises_awaitReport (org job : String) (n : Nat) :
    Raises (Foreseen tools) (Platform.Deployment.awaitReport tools.platform org job n) := by
  induction n with
  | zero => exact raises_foreseen (raises_cause ⟨nofun, nofun⟩)
  | succ n ih =>
    apply raises_attempt_bind (raises_platform _)
    · intro report
      apply raises_ite
      · apply raises_ofExcept
        intro e h
        unfold Platform.DeployReport.outcome at h
        split at h
        · cases h
        · cases h
          exact Or.inl ⟨nofun, nofun⟩
      · exact ih
    · intro e he
      exact raises_ite ih (raises_throw he)

theorem raises_deployment (d : Platform.Deployment) :
    Raises (Foreseen tools) (d.run tools.platform) := by
  apply raises_bind (raises_platform _)
  intro queued
  cases Platform.Deployment.job? queued with
  | some job => exact raises_awaitReport _ _ _
  | none => exact raises_foreseen (raises_cause ⟨nofun, nofun⟩)

end

namespace Task

def isUnsupported : Task → Bool
  | unsupported _ => true
  | _ => false

theorem raises_perform (tools : Tools) (directory : String) {task : Task}
    (h : task.isUnsupported = false) : Raises (Foreseen tools) (task.perform tools directory) := by
  cases task with
  | changeSet r => exact raises_bind (raises_create _ _) fun _ => raises_pure _
  | transfer t => exact raises_bind (raises_transfer _ _) fun _ => raises_pure _
  | command c => exact raises_bind (raises_platform _) fun _ => raises_pure _
  | bulk operation c allowance =>
    exact raises_bind (raises_bind (raises_platform _) fun _ =>
      raises_foreseen (raises_bind (raises_bulkCheck _ _ _) fun _ => raises_pure _))
        fun _ => raises_pure _
  | query c => exact raises_bind (raises_platform _) fun _ => raises_pure _
  | deploy d => exact raises_bind (raises_deployment _) fun _ => raises_pure _
  | unsupported type => cases h

end Task

namespace StepKind

theorem isUnsupported_task (env : Environment) (kind : StepKind) (store : Store) :
    (kind.resolve env store).1.isUnsupported = kind.isUnsupported := by
  cases kind <;> rfl

theorem foreseen_execute (env : Environment) (tools : Tools) (directory : String)
    {kind : StepKind} (hkind : kind.isUnsupported = false) (store : Store) (w : World) {e : Error}
    (h : (kind.execute env tools directory store w).1.1 = .error e) : Foreseen tools e := by
  have htask : (kind.resolve env store).1.isUnsupported = false := by
    rw [isUnsupported_task, hkind]
  rcases hrun : (kind.resolve env store).1.perform tools directory w with ⟨result, w'⟩
  have hresult : (kind.execute env tools directory store w).1.1 = result := by
    change ((kind.resolve env store).1.perform tools directory w).1 = result
    rw [hrun]
  rw [hresult] at h
  exact Task.raises_perform tools directory htask w e w' (h ▸ hrun)

theorem explained_execute (env : Environment) (tools : Tools) (directory : String)
    {kind : StepKind} (hkind : kind.isUnsupported = false) (store : Store) (w : World) {e : Error}
    (h : (kind.execute env tools directory store w).1.1 = .error e) : Explained tools e :=
  (foreseen_execute env tools directory hkind store w h).explained

end StepKind
end OrgPipeline
