import OrgPipeline.World.Program

/-!
# Version control

A repository can check out a point of its history and merge two of them. Behind
it stands the `git` program, started in the directory of the repository.
-/

set_option autoImplicit false

namespace OrgPipeline

namespace VersionControl

inductive Command where
  | checkout (point : String)
  | merge (source target : String)
  deriving DecidableEq, Repr

namespace Command

def args : Command → List String
  | checkout point => ["checkout", point]
  | merge source target => ["merge", source, target]

def context : Command → String
  | checkout _ => "git checkout"
  | merge _ _ => "git merge"

end Command

def program : String := "git"

def reason : Error → String
  | ⟨.io problem _, _, _⟩ => problem
  | e => e.message

def perform (directory : String) (c : Command) : Action Unit := do
  match ← (Launch.trimmedOutput ⟨directory, program, c.args, none⟩ c.context).attempt with
  | .ok _ => return ()
  | .error e => throw (Cause.gitFailed (reason e) : Error)

end VersionControl
end OrgPipeline
