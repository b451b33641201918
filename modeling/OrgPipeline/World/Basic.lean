import OrgPipeline.World.Files
import OrgPipeline.Error

/-!
# The world around a run

Everything outside the process: the files, the programs that can be started and
how they will answer, the text on standard input, and a supply of names that
are not in use yet. Every start of a program is kept in order. An action changes the world and may
end in an error; what it did before stays done.
-/

set_option autoImplicit false

namespace OrgPipeline

def Place.text (place : Place) : String := "/" ++ Text.join "/" place

inductive Ending where
  | exit (code : Nat)
  | killed
  deriving DecidableEq, Repr

namespace Ending

def isSuccess : Ending → Bool
  | exit code => code = 0
  | killed => false

/-- The exit code; minus one for a program that was killed. -/
def code : Ending → Int
  | exit code => code
  | killed => -1

end Ending

/-- A program that was started, with the files as it found them. -/
structure Start where
  program : String
  args : List String
  place : Place
  /-- The access token handed over in the environment of the program. -/
  token : Option String
  files : Files

/-- What a program prints, how it ends, and what it does to the files. -/
structure Reply where
  stdout : Octets
  stderr : Octets
  ending : Ending
  effect : Start → Files → Files

structure World where
  files : Files
  here : Place
  /-- The programs that can be started, with what they answer unprompted. -/
  programs : List (String × Reply)
  script : List (Option Reply)
  starts : List Start
  stdin : Octets
  serial : Nat
  /-- Standard input is a terminal. -/
  terminal : Bool := false

abbrev Action (α : Type) := ExceptT Error (StateM World) α

namespace Action
variable {α : Type}

/-- An operation on the files. A failure goes by its own text and a context. -/
def ofFiles (context : String) (operation : Place → FileAction α) : Action α := fun w =>
  match operation w.here w.files with
  | (.ok a, files) => (.ok a, { w with files })
  | (.error problem, files) =>
    (.error (Cause.io problem.text (some context)), { w with files })

def askFiles (question : Place → Files → α) : Action α := fun w =>
  (.ok (question w.here w.files), w)

def freshNumber : Action Nat := fun w => (.ok w.serial, { w with serial := w.serial + 1 })

def ofExcept : Except Error α → Action α := fun r w => (r, w)

def attempt (a : Action α) : Action (Except Error α) := fun w =>
  let (r, w) := a w
  (.ok r, w)

def readText (path operation : String) : Action String :=
  ofFiles (operation ++ ": " ++ path) fun here => Files.read here path

/-- Writes a file. The directories above it are made as far as they are
missing. -/
def writeText (path content operation : String) : Action Unit := do
  match Path.parent? path with
  | some parent =>
    if parent ≠ "" then
      ofFiles (operation ++ " (create dir)") fun here => Files.makeAll here parent
  | none => pure ()
  ofFiles (operation ++ ": " ++ path) fun here =>
    Files.write here path (Octets.ofText content)

def fileExists (path : String) : Action Bool := askFiles fun here f => f.exists? here path

def isFile (path : String) : Action Bool := askFiles fun here f => f.isFile here path

/-- Removes a file; one that is not there is as good as removed. -/
def remove (path operation : String) : Action Unit := do
  if ← fileExists path then
    ofFiles operation fun here => Files.remove here path

def removeDirectory (path operation : String) : Action Unit := do
  if ← fileExists path then
    ofFiles operation fun here => Files.removeTree here path

end Action
end OrgPipeline
