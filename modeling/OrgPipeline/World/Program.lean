import OrgPipeline.World.Basic
import OrgPipeline.Text.Blank

/-!
# Starting programs

A program is started in a directory with arguments, and waited for. Nothing is
started if one of the texts handed over contains the null character, if the
directory cannot be entered, or if no program of that name can be found. A
failed start is not recorded and uses up no answer.
-/

set_option autoImplicit false

namespace OrgPipeline

structure ProgramOutput where
  success : Bool
  exitCode : Int
  stdout : String
  stderr : String
  deriving DecidableEq, Repr

namespace ProgramOutput

/-- The trimmed standard error, or standard output if that is empty. -/
def errorText (o : ProgramOutput) : String :=
  if Text.blank o.stderr then Text.trim o.stdout else Text.trim o.stderr

def ofReply (r : Reply) : ProgramOutput :=
  ⟨r.ending.isSuccess, r.ending.code, r.stdout.lossy, r.stderr.lossy⟩

def stated (name text : String) : Json.Members := if text = "" then [] else [(name, .str text)]

/-- Output that is empty is left out. -/
def toJson (o : ProgramOutput) : Json :=
  .object ([("success", .bool o.success), ("exit_code", .int o.exitCode)] ++
    stated "stdout" o.stdout ++ stated "stderr" o.stderr)

end ProgramOutput

inductive StartProblem where
  | nulInText
  | os (problem : OsProblem)
  deriving DecidableEq, Repr

def StartProblem.text : StartProblem → String
  | nulInText => "nul byte found in provided data"
  | os problem => problem.text

structure Launch where
  directory : String
  program : String
  args : List String
  token : Option String

namespace Launch

def texts (l : Launch) : List String := [l.directory, l.program] ++ l.args ++ l.token.toList

def place (l : Launch) (here : Place) (files : Files) : Except StartProblem Place :=
  match files.resolve here l.directory with
  | .error problem => .error (.os problem)
  | .ok place =>
    match files.get? place with
    | some .directory => .ok place
    | some (.file _) => .error (.os .notDirectory)
    | none => .error (.os .notFound)

/-- What happens when the program starts: its record and its unprompted reply. -/
def prepare (l : Launch) (w : World) : Except StartProblem (Start × Reply) :=
  if l.texts.any Files.hasNul then .error .nulInText
  else
    match l.place w.here w.files with
    | .error problem => .error problem
    | .ok place =>
      match w.programs.lookup l.program with
      | none => .error (.os .notFound)
      | some reply => .ok (⟨l.program, l.args, place, l.token, w.files⟩, reply)

def run (l : Launch) : StateM World (Except StartProblem Reply) := fun w =>
  match l.prepare w with
  | .error problem => (.error problem, w)
  | .ok (start, unprompted) =>
    let reply := (w.script.head?.join).getD unprompted
    (.ok reply, { w with
      files := reply.effect start w.files
      script := w.script.tail
      starts := w.starts ++ [start] })

/-- The output of the program, whatever its exit code. -/
def capture (l : Launch) (context : String) : Action ProgramOutput := fun w =>
  match l.run w with
  | (.ok reply, w) => (.ok (.ofReply reply), w)
  | (.error problem, w) =>
    (.error (Cause.io ("Failed to run " ++ context ++ ": " ++ problem.text) (some context)), w)

def trimmedOutput (l : Launch) (context : String) : Action String := do
  let output ← l.capture context
  if output.success then return Text.trim output.stdout
  else throw (Cause.io (context ++ " failed: " ++ output.errorText) (some context) : Error)

end Launch
end OrgPipeline
