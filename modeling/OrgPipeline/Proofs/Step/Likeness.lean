import OrgPipeline.Step.Task
import OrgPipeline.Proofs.Sequence

/-!
# Tools that cannot be told apart

Two sets of tools are alike if, asked for the same again and again, they answer
the same and leave the same traces: in the files, in the programs started and
in the names that are still free. Whatever task is carried out, it then makes no
difference which of the two carries it out.
-/

set_option autoImplicit false

namespace OrgPipeline
open Sequence

/-- Related worlds show a run the same. What only the tools can see, such as the
answers still to come, may differ; what a run changes of its own it changes in
both. -/
structure Likeness (R : World → World → Prop) : Prop where
  files : ∀ {v w}, R v w → v.files = w.files
  here : ∀ {v w}, R v w → v.here = w.here
  serial : ∀ {v w}, R v w → v.serial = w.serial
  starts : ∀ {v w}, R v w → v.starts = w.starts
  withFiles : ∀ {v w}, R v w → ∀ files : Files, R { v with files } { w with files }
  withSerial : ∀ {v w}, R v w → ∀ serial : Nat, R { v with serial } { w with serial }

/-- In related worlds both tools give the same answer to every command, and the
worlds they leave are related again. -/
structure Tools.Alike (R : World → World → Prop) (a b : Tools) : Prop where
  likeness : Likeness R
  platform : ∀ command, Agree R (a.platform command) (b.platform command)
  repository : ∀ command, Agree R (a.repository command) (b.repository command)

/-- As `Likeness`, but for the programs that were started: no task looks back at
them. -/
structure Alongside (R : World → World → Prop) : Prop where
  files : ∀ {v w}, R v w → v.files = w.files
  here : ∀ {v w}, R v w → v.here = w.here
  serial : ∀ {v w}, R v w → v.serial = w.serial
  withFiles : ∀ {v w}, R v w → ∀ files : Files, R { v with files } { w with files }
  withSerial : ∀ {v w}, R v w → ∀ serial : Nat, R { v with serial } { w with serial }

theorem Likeness.alongside {R : World → World → Prop} (h : Likeness R) : Alongside R :=
  ⟨h.files, h.here, h.serial, h.withFiles, h.withSerial⟩

structure Tools.Matching (R : World → World → Prop) (a b : Tools) : Prop where
  alongside : Alongside R
  platform : ∀ command, Agree R (a.platform command) (b.platform command)
  repository : ∀ command, Agree R (a.repository command) (b.repository command)

theorem Tools.Alike.matching {R : World → World → Prop} {a b : Tools} (h : Tools.Alike R a b) :
    Tools.Matching R a b :=
  ⟨h.likeness.alongside, h.platform, h.repository⟩

theorem likeness_eq : Likeness Eq where
  files h := h ▸ rfl
  here h := h ▸ rfl
  serial h := h ▸ rfl
  starts h := h ▸ rfl
  withFiles h _ := h ▸ rfl
  withSerial h _ := h ▸ rfl

theorem Tools.alike_self (tools : Tools) : Tools.Alike Eq tools tools where
  likeness := likeness_eq
  platform _ := fun _ _ h => h ▸ ⟨rfl, rfl⟩
  repository _ := fun _ _ h => h ▸ ⟨rfl, rfl⟩

section

variable {R : World → World → Prop} {α β : Type}

theorem agree_ofExcept (r : Except Error α) : Agree R (Action.ofExcept r) (Action.ofExcept r) :=
  fun _ _ h => ⟨rfl, h⟩

theorem agree_attempt {a b : Action α} (h : Agree R a b) : Agree R a.attempt b.attempt := by
  intro v w hvw
  obtain ⟨hresult, hworld⟩ := h v w hvw
  exact ⟨congrArg Except.ok hresult, hworld⟩

section Alongside
variable (hR : Alongside R)
include hR

theorem agree_ofFiles (context : String) (operation : Place → FileAction α) :
    Agree R (Action.ofFiles context operation) (Action.ofFiles context operation) := by
  intro v w h
  have hsame : operation v.here v.files = operation w.here w.files := by
    rw [hR.here h, hR.files h]
  unfold Action.ofFiles
  rw [hsame]
  rcases operation w.here w.files with ⟨r, files⟩
  cases r with
  | ok a => exact ⟨rfl, hR.withFiles h files⟩
  | error problem => exact ⟨rfl, hR.withFiles h files⟩

theorem agree_askFiles (question : Place → Files → α) :
    Agree R (Action.askFiles question) (Action.askFiles question) := by
  intro v w h
  unfold Action.askFiles
  rw [hR.here h, hR.files h]
  exact ⟨rfl, h⟩

theorem agree_freshNumber : Agree R Action.freshNumber Action.freshNumber := by
  intro v w h
  unfold Action.freshNumber
  rw [hR.serial h]
  exact ⟨rfl, hR.withSerial h _⟩

theorem agree_readText (path operation : String) :
    Agree R (Action.readText path operation) (Action.readText path operation) :=
  agree_ofFiles hR _ _

theorem agree_writeText (path content operation : String) :
    Agree R (Action.writeText path content operation)
      (Action.writeText path content operation) := by
  unfold Action.writeText
  split
  · split
    · exact agree_bind (agree_ofFiles hR _ _) fun _ => agree_ofFiles hR _ _
    · exact agree_ofFiles hR _ _
  · exact agree_ofFiles hR _ _

theorem agree_remove (path operation : String) :
    Agree R (Action.remove path operation) (Action.remove path operation) :=
  agree_bind (agree_askFiles hR _) fun _ => agree_ite (agree_ofFiles hR _ _) (agree_pure ())

theorem agree_removeDirectory (path operation : String) :
    Agree R (Action.removeDirectory path operation) (Action.removeDirectory path operation) :=
  agree_bind (agree_askFiles hR _) fun _ => agree_ite (agree_ofFiles hR _ _) (agree_pure ())

theorem agree_loadManifest (path : String) : Agree R (Manifest.load path) (Manifest.load path) :=
  agree_bind (agree_readText hR _ _) fun _ => agree_ofExcept _

theorem agree_readSourcePaths (directory : String) :
    Agree R (Project.readSourcePaths directory) (Project.readSourcePaths directory) :=
  agree_bind (agree_askFiles hR _) fun _ =>
    agree_ite (agree_bind (agree_readText hR _ _) fun _ => agree_ofExcept _)
      (agree_throw _)

theorem agree_revertName (r : ChangeSet.Request) :
    Agree R (ChangeSet.revertName r) (ChangeSet.revertName r) := by
  have hgenerated : Agree R ChangeSet.revertName.generated ChangeSet.revertName.generated :=
    agree_bind (agree_freshNumber hR) fun _ => agree_pure _
  unfold ChangeSet.revertName
  split
  · exact agree_ite hgenerated (agree_pure _)
  · exact hgenerated

theorem agree_writeDestructive (manifest : Option Manifest) (dir : String)
    (mode : DestructiveMode) :
    Agree R (ChangeSet.writeDestructive manifest dir mode)
      (ChangeSet.writeDestructive manifest dir mode) := by
  cases manifest with
  | none => exact agree_pure ()
  | some m => exact agree_writeText hR _ _ _

end Alongside

section Tools
variable {a b : Tools} (h : Tools.Matching R a b)
include h

theorem agree_convert (project outputDir : String) :
    Agree R (ChangeSet.convert a project outputDir) (ChangeSet.convert b project outputDir) :=
  agree_bind (agree_readSourcePaths h.alongside project) fun _ =>
    agree_bind (h.platform _) fun _ => agree_pure ()

theorem agree_create (project : String) (r : ChangeSet.Request) :
    Agree R (ChangeSet.create a project r) (ChangeSet.create b project r) :=
  agree_bind (agree_revertName h.alongside r) fun _ =>
    agree_bind (h.repository _) fun _ =>
    agree_bind (agree_convert h _ _) fun _ =>
    agree_bind (h.repository _) fun _ =>
    agree_bind (agree_convert h _ _) fun _ =>
    agree_bind (agree_loadManifest h.alongside _) fun _ =>
    agree_bind (agree_loadManifest h.alongside _) fun _ =>
    agree_bind (agree_writeDestructive h.alongside _ _ _) fun _ =>
    agree_ite (agree_bind (agree_writeDestructive h.alongside _ _ _) fun _ => agree_pure _)
      (agree_bind (agree_removeDirectory h.alongside _ _) fun _ => agree_pure _)

theorem agree_transfer (t : Transfer) (directory : String) :
    Agree R (t.run a.platform directory) (t.run b.platform directory) := by
  have hcopy (file : String) : Agree R (t.copy a.platform file) (t.copy b.platform file) :=
    agree_bind (h.platform _) fun _ => agree_bind (h.platform _) fun _ =>
      agree_bind (agree_ofExcept _) fun _ => agree_pure _
  exact agree_bind (agree_freshNumber h.alongside) fun _ =>
    agree_bind (agree_attempt (hcopy _)) fun _ =>
    agree_bind (agree_remove h.alongside _ _) fun _ => agree_ofExcept _

theorem agree_awaitReport (org job : String) (n : Nat) :
    Agree R (Platform.Deployment.awaitReport a.platform org job n)
      (Platform.Deployment.awaitReport b.platform org job n) := by
  induction n with
  | zero => exact agree_throw _
  | succ n ih =>
    apply agree_bind (agree_attempt (h.platform _))
    intro answer
    -- one attempt ends the wait or leaves the rest of them
    cases answer with
    | ok report => exact agree_ite (agree_ofExcept _) ih
    | error e => exact agree_ite ih (agree_throw e)

theorem agree_deployment (d : Platform.Deployment) :
    Agree R (d.run a.platform) (d.run b.platform) := by
  apply agree_bind (h.platform _)
  intro queued
  cases Platform.Deployment.job? queued with
  | some job => exact agree_awaitReport h _ _ _
  | none => exact agree_throw _

theorem agree_perform (directory : String) (task : Task) :
    Agree R (task.perform a directory) (task.perform b directory) := by
  cases task with
  | changeSet r => exact agree_bind (agree_create h _ _) fun _ => agree_pure _
  | transfer t => exact agree_bind (agree_transfer h _ _) fun _ => agree_pure _
  | command c => exact agree_bind (h.platform _) fun _ => agree_pure _
  | bulk operation c allowance =>
    exact agree_bind (agree_bind (h.platform _) fun _ =>
      agree_bind (agree_ofExcept _) fun _ => agree_pure _) fun _ => agree_pure _
  | query c => exact agree_bind (h.platform _) fun _ => agree_pure _
  | deploy d => exact agree_bind (agree_deployment h _) fun _ => agree_pure _
  | unsupported type => exact agree_throw _

end Tools
end
end OrgPipeline
