import OrgPipeline.ChangeSet.Diff
import OrgPipeline.ChangeSet.Mode
import OrgPipeline.Manifest.Reader
import OrgPipeline.Manifest.Writer
import OrgPipeline.Tools
import OrgPipeline.Json.Reader

/-!
# Building a change set

The source at the base revision is converted into the revert directory, then
the source with the head merged in into the change set directory. The two
manifests are compared, and what must be destroyed is written beside them. The
revert directory stays only if a revert change set is asked for.
-/

set_option autoImplicit false

namespace OrgPipeline

namespace Manifest

def load (path : String) : Action Manifest := do
  let text ← Action.readText path "read package manifest"
  Action.ofExcept (parse text path)

def save (m : Manifest) (path : String) : Action Unit :=
  Action.writeText path m.toXml "write package manifest"

end Manifest

/-! ## Source directories -/

namespace Project

def fileName : String := "sfdx-project.json"

def directories (project : Json) : Except Error (List Json) :=
  match project.get? "packageDirectories" with
  | some (.arr (d :: ds)) => .ok (d :: ds)
  | _ =>
    .error (Cause.configSchema fileName "File must contain at least one packageDirectories")

def path? (directory : Json) : Option String :=
  ((directory.get? "path").bind Json.asString?).filter (· ≠ "")

def sourcePaths (text : String) : Except Error (List String) :=
  match Json.read text with
  | none => .error (Cause.configContent fileName "JSON" (some notWellFormed))
  | some project => (directories project).map fun ds => ds.filterMap path?

def readSourcePaths (directory : String) : Action (List String) := do
  let path := Path.join directory fileName
  if ← Action.isFile path then
    let text ← Action.readText path "read sfdx project"
    Action.ofExcept (sourcePaths text)
  else throw (Cause.configNotFound fileName : Error)

end Project

namespace ChangeSet

structure Request where
  head : String
  base : String
  mode : DestructiveMode
  dir : String
  createRevert : Bool
  revertMode : DestructiveMode
  revertDir : Option String

/-- A name for a revert directory that is not asked for by name. -/
def generatedName (serial : Nat) : String := "revertChSet_" ++ toString serial

def revertName (r : Request) : Action String :=
  match r.revertDir with
  | some dir => if Text.blank dir then generated else pure dir
  | none => generated
where
  generated : Action String := return generatedName (← Action.freshNumber)

def convert (tools : Tools) (project outputDir : String) : Action Unit := do
  let sources ← Project.readSourcePaths project
  let _ ← tools.platform (.convertSource outputDir sources)

def writeDestructive (manifest : Option Manifest) (dir : String) (mode : DestructiveMode) :
    Action Unit :=
  match manifest with
  | some m => m.save (Path.join dir mode.fileName)
  | none => pure ()

def create (tools : Tools) (project : String) (r : Request) : Action Changes := do
  let revertDir := Path.join project (← revertName r)
  let dir := Path.join project r.dir
  tools.repository (.checkout r.base)
  convert tools project revertDir
  tools.repository (.merge r.head r.base)
  convert tools project dir
  let deploy ← Manifest.load (Path.join dir Manifest.fileName)
  let revert ← Manifest.load (Path.join revertDir Manifest.fileName)
  let result := diff revert deploy
  writeDestructive result.deployDestructive dir r.mode
  if r.createRevert then writeDestructive result.revertDestructive revertDir r.revertMode
  else Action.removeDirectory revertDir "remove revert change set"
  return result.changes

end ChangeSet
end OrgPipeline
