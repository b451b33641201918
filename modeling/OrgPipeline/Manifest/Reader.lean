import OrgPipeline.Manifest.Basic
import OrgPipeline.Xml.Event
import OrgPipeline.Error

/-!
# Reading a manifest

The events of the document are followed with the path of open elements. Only
types, their members and names, and the version count, and only where they
belong; other elements are passed over.
-/

set_option autoImplicit false

namespace OrgPipeline.Manifest

inductive TextElement where
  | member
  | name
  | version
  deriving DecidableEq, Repr

structure Progress where
  manifest : Manifest
  /-- The open elements, outermost first. -/
  path : List String
  entry : Option ManifestType
  /-- The text element that is awaited to close. -/
  awaited : Option TextElement
  text : String

inductive ReadProblem where
  | malformed
  | unclosed (path : List String)
  deriving DecidableEq, Repr

def ReadProblem.text : ReadProblem → String
  | malformed => notWellFormed
  | unclosed path => "unclosed element <" ++ Text.join "><" path ++ ">"

namespace Progress

def start : Progress := ⟨.empty, [], none, none, ""⟩

def xmlns? (attributes : List Char) : Option (Option String) := do
  match ← Xml.attribute? true "xmlns" attributes with
  | none => some none
  | some raw => (Xml.unescape raw).map fun v => some (String.ofList v)

def opened (p : Progress) (name : String) (attributes : List Char) : Option Progress := do
  let p ← match p.path, name with
    | [], "Package" =>
      (xmlns? attributes).map fun v => { p with manifest := { p.manifest with xmlns := v } }
    | ["Package"], "types" => some { p with entry := some ⟨none, []⟩ }
    | ["Package"], "version" => some { p with awaited := some .version }
    | ["Package", "types"], "members" => some { p with awaited := some .member }
    | ["Package", "types"], "name" => some { p with awaited := some .name }
    | _, _ => some p
  some { p with text := "", path := p.path ++ [name] }

def taken (p : Progress) : TextElement → Progress
  | .version => { p with manifest := { p.manifest with version := some p.text }, text := "" }
  | .member =>
    match p.entry with
    | some e => { p with entry := some { e with members := e.members ++ [p.text] }, text := "" }
    | none => p
  | .name =>
    match p.entry with
    | some e => { p with entry := some { e with name := some p.text }, text := "" }
    | none => p

def closed (p : Progress) : Progress :=
  let name := p.path.getLast?
  let p := { p with path := p.path.dropLast }
  match p.awaited with
  | some element => { p with awaited := none }.taken element
  | none =>
    if name = some "types" ∧ p.path.length = 1 then
      match p.entry with
      | some e =>
        { p with
          manifest := { p.manifest with types := p.manifest.types ++ [e] }, entry := none }
      | none => p
    else p

def step (p : Progress) : Xml.Event → Option Progress
  | .declaration version encoding =>
    let m := p.manifest
    some { p with manifest :=
      { m with xmlVersion := some version, encoding := encoding <|> m.encoding } }
  | .start name attributes => p.opened name attributes
  | .empty name attributes =>
    if p.path = [] ∧ name = "Package" then
      (xmlns? attributes).map fun v => { p with manifest := { p.manifest with xmlns := v } }
    else some p
  | .finish => some p.closed
  | .text content => some { p with text := p.text ++ content }

def run : Progress → List Xml.Event → Option Progress
  | p, [] => some p
  | p, e :: rest => (p.step e).bind fun q => run q rest

theorem run_append (p : Progress) (es fs : List Xml.Event) :
    run p (es ++ fs) = (run p es).bind fun q => run q fs := by
  induction es generalizing p with
  | nil => rfl
  | cons e es ih =>
    simp only [List.cons_append, run]
    cases p.step e with
    | none => rfl
    | some q => exact ih q

end Progress

def ofEvents (events : List Xml.Event) : Except ReadProblem Manifest :=
  match Progress.run .start events with
  | none => .error .malformed
  | some p => if p.path.isEmpty then .ok p.manifest else .error (.unclosed p.path)

def readText (cs : List Char) : Except ReadProblem Manifest :=
  match Xml.Event.ofText? cs with
  | none => .error .malformed
  | some events => ofEvents events

def parse (text label : String) : Except Error Manifest :=
  match readText text.toList with
  | .ok m => .ok m
  | .error problem => .error (Cause.manifestInvalid label problem.text)

end OrgPipeline.Manifest
