import OrgPipeline.Environment
import OrgPipeline.World.Basic

/-!
# Worlds from a description

A world can be written down as one JSON object. `env` gives the variables, `files`
the texts of the files in the working directory, where a name with a slash at its
end makes a directory, `replies` the answers of the next programs in their order,
and `stdin` the text on standard input. What is not there counts as empty.
-/

set_option autoImplicit false

namespace OrgPipeline.Description

def text (d : Json) (name : String) : String := ((d.get? name).bind Json.asString?).getD ""

def texts (d : Json) (name : String) : List (String × String) :=
  match d.get? name with
  | some (.obj members) => members.filterMap fun m => m.2.asString?.map fun s => (m.1, s)
  | _ => []

def environment (d : Json) : Environment := .ofList (texts d "env")

def addFile (files : Files) (name content : String) : Files :=
  if name.endsWith "/" then (Files.makeAll [] name files).2
  else
    let files := (Files.makeAll [] ((Path.parent? name).getD "") files).2
    (Files.write [] name (Octets.ofText content) files).2

def files (d : Json) : Files :=
  (texts d "files").foldl (fun f m => addFile f m.1 m.2) Files.empty

/-- The exit code; a negative number means that the program was killed. -/
def ending (d : Json) : Ending :=
  match d.get? "exit" with
  | some (.num (.int n)) => if n < 0 then .killed else .exit n.toNat
  | _ => .exit 0

def reply (d : Json) : Reply :=
  ⟨Octets.ofText (text d "stdout"), Octets.ofText (text d "stderr"), ending d, fun _ f => f⟩

def replies (d : Json) : List (Option Reply) :=
  match d.get? "replies" with
  | some (.arr items) => items.map fun item => some (reply item)
  | _ => []

/-- The world described, in which these programs can be started. Unprompted they
print nothing and succeed. -/
def world (programs : List String) (d : Json) : World where
  files := files d
  here := []
  programs := programs.map fun name => (name, reply .null)
  script := replies d
  starts := []
  stdin := Octets.ofText (text d "stdin")
  serial := 0

end OrgPipeline.Description
