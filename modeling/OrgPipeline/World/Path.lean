import OrgPipeline.Text.Split
import OrgPipeline.Text.Blank

/-!
# Paths as text

A path is a text of names with slashes between them; it is absolute if it
begins with one. The functions here look at the text alone.
-/

set_option autoImplicit false

namespace OrgPipeline.Path

def isAbsolute (p : String) : Bool := p.toList.head? == some '/'

/-- A path from a directory on; an absolute one stays as it is. -/
def join (dir p : String) : String :=
  if isAbsolute p then p
  else if dir = "" ∨ dir.toList.getLast? = some '/' then dir ++ p
  else dir ++ "/" ++ p

/-- The names between the slashes; empty ones and single dots say nothing. -/
def components (p : String) : List String :=
  (Text.split '/' p).filter fun c => c ≠ "" ∧ c ≠ "."

def parent? (p : String) : Option String :=
  match components p with
  | [] => none
  | cs => some ((if isAbsolute p then "/" else "") ++ Text.join "/" cs.dropLast)

/-- The last name of a path, if it leads to something below. -/
def fileName? (p : String) : Option String :=
  (components p).getLast?.filter (· ≠ "..")

/-- What follows the last dot of the last name, provided something stands
before that dot. -/
def extension? (p : String) : Option String := do
  let name := (← fileName? p).toList
  let tail := name.reverse.takeWhile (· ≠ '.')
  let before := name.take (name.length - tail.length - 1)
  if tail.length = name.length ∨ before.isEmpty then none
  else some (String.ofList tail.reverse)

end OrgPipeline.Path
