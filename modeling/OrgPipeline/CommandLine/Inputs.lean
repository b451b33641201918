import OrgPipeline.World.Basic
import OrgPipeline.Table
import OrgPipeline.Json.Outline
import OrgPipeline.CommandLine.Expand

/-!
# Inputs on the command line

Inputs are given as a JSON object, in place, in a file or on standard input, and
as pairs of an identifier and a value. A pair overrides the object. The value of
a pair is a JSON null, boolean, number or string where it reads as one, and its
own text otherwise.
-/

set_option autoImplicit false

namespace OrgPipeline.Inputs

/-- Inputs by their identifiers, in the order in which these first came. -/
abbrev Data := Table Json

def invalid (field problem : String) : Error := Cause.invalidArgument field problem none none

/-! ## The object -/

def notAnObject : String := "Inputs must be a JSON object: "

def ofObject (text : String) : Except Error Data :=
  match Json.readMembers (fun _ => true) text.toList with
  | some members => .ok (Table.ofList members)
  | none => .error (invalid "inputs" (notAnObject ++ notWellFormed))

def terminalInput : String := "Cannot read JSON from stdin when stdin is a TTY"

def readStdin : Action String := fun w =>
  if w.terminal then (.error (invalid "inputs" terminalInput), w)
  else
    match Octets.text? w.stdin with
    | some text => (.ok text, { w with stdin := [] })
    | none => (.error (Cause.io OsProblem.notText.text (some "read stdin")), { w with stdin := [] })

/-- The text of the object: a dash stands for standard input, and an at sign
comes before the name of a file. -/
def specText (env : Environment) (spec : String) : Action String :=
  if Text.trim spec = "-" then readStdin
  else
    match Text.after "@" spec with
    | some path =>
      if Text.blank path then throw (invalid "inputs" "Invalid JSON spec '@' (missing file path)")
      else Action.readText (PathTemplate.expand env path) "read inputs file"
    | none => return spec

def ofSpec (env : Environment) : Option String → Action Data
  | some spec => do Action.ofExcept (ofObject (← specText env spec))
  | none => return .empty

/-! ## The pairs -/

def valueOf (text : String) : Json :=
  match Json.read text with
  | some (.arr _) | some (.obj _) | none => .str text
  | some v => v

/-- Identifier and value of a pair, divided at the first equals sign. -/
def ofPair (pair : String) : Except Error (String × Json) :=
  match Text.splitOnce '=' pair with
  | none => .error (invalid "input" ("Expected id=value, got '" ++ pair ++ "'"))
  | some (id, text) =>
    if Text.blank id then .error (invalid "input" ("Missing input id in '" ++ pair ++ "'"))
    else .ok (Text.trim id, valueOf text)

def ofPairs (pairs : List String) : Except Error Data := (pairs.mapM ofPair).map Table.ofList

def overriddenBy (base pairs : Data) : Data :=
  pairs.toList.foldl (fun t p => t.insert p.1 p.2) base

def merge (env : Environment) (spec : Option String) (pairs : List String) : Action Data := do
  let base ← ofSpec env spec
  let named ← Action.ofExcept (ofPairs pairs)
  return overriddenBy base named

end OrgPipeline.Inputs
