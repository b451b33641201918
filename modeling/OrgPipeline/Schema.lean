import OrgPipeline.Json.Basic
import OrgPipeline.Text.Quoted
import OrgPipeline.Text.Split

/-!
# Records in JSON

A `Schema` says which members a record has and what values they take. Reading
visits the members of an object in the order of their names and reports the
first one that does not fit; after that the missing ones are reported in the
order of declaration. A record may also be given as an array of its fields.
-/

set_option autoImplicit false

namespace OrgPipeline

inductive Misfit where
  | missingField (name : String)
  | unknownField (name : String) (declared : List String)
  | strayMember (name : String)
  | invalidType (found : Json) (expected : String)
  | unknownVariant (name : String) (declared : List String)
  /-- A variant is written as an object, which has not exactly one member. -/
  | notOneMember
  | invalidLength (length : Nat) (expected : String)
  | noAlternative (type : String)
  deriving Inhabited

namespace Misfit

def ticked (s : String) : String := "\x60" ++ s ++ "\x60"

def oneOf : List String → String
  | [] => "there are no fields"
  | [a] => "expected " ++ ticked a
  | [a, b] => "expected " ++ ticked a ++ " or " ++ ticked b
  | names => "expected one of " ++ Text.join ", " (names.map ticked)

def describe : Json → String
  | .null => "null"
  | .bool b => "boolean " ++ ticked (if b then "true" else "false")
  | .num (.int n) => "integer " ++ ticked (toString n)
  | .num (.float x) => "floating point " ++ ticked (Decimal.jsonLayout.text x)
  | .str s => "string " ++ Text.quoted s
  | .arr _ => "sequence"
  | .obj _ => "map"

def message : Misfit → String
  | missingField name => "missing field " ++ ticked name
  | unknownField name declared => "unknown field " ++ ticked name ++ ", " ++ oneOf declared
  | strayMember name => "unknown field " ++ ticked name ++ ", expected no parameters"
  | invalidType found expected =>
    "invalid type: " ++ describe found ++ ", expected " ++ expected
  | unknownVariant name declared => "unknown variant " ++ ticked name ++ ", " ++ oneOf declared
  | notOneMember => "invalid value: map, expected map with a single key"
  | invalidLength n expected => "invalid length " ++ toString n ++ ", expected " ++ expected
  | noAlternative type => "data did not match any variant of untagged enum " ++ type

end Misfit

abbrev Fit (α : Type) := Except Misfit α

/-! ## Values of one kind -/

namespace Fit

def text : Json → Fit String
  | .str s => .ok s
  | v => .error (.invalidType v "a string")

def boolean : Json → Fit Bool
  | .bool b => .ok b
  | v => .error (.invalidType v "a boolean")

def anything (v : Json) : Fit Json := .ok v

def list {α : Type} (item : Json → Fit α) : Json → Fit (List α)
  | .arr items => items.mapM item
  | v => .error (.invalidType v "a sequence")

/-- Null stands for no value. -/
def option {α : Type} (inner : Json → Fit α) : Json → Fit (Option α)
  | .null => .ok none
  | v => (inner v).map some

/-- One of a few names, alone or as the only member of an object. -/
def variant {α : Type} (declared : List (String × α)) (v : Json) : Fit α :=
  let choose (name : String) : Fit α :=
    match declared.lookup name with
    | some a => .ok a
    | none => .error (.unknownVariant name (declared.map Prod.fst))
  match v with
  | .str name => choose name
  | .obj [(name, inner)] => do
    let a ← choose name
    match inner with
    | .null => .ok a
    | other => .error (.invalidType other "unit")
  | .obj _ => .error .notOneMember
  | other => .error (.invalidType other "string or map")

end Fit

/-! ## Records -/

structure Field where
  name : String
  check : Json → Fit Unit

/-- How a record is read from members, or from its fields in a row. -/
structure Schema (α : Type) where
  fields : List Field
  ofMembers : Json.Members → Fit α
  /-- The fields from a place on, their expectation as text; also what is left. -/
  ofItems : String → Nat → List Json → Fit (α × List Json)

namespace Schema
variable {α β : Type}

def checkOf (inner : Json → Fit α) (v : Json) : Fit Unit := (inner v).map fun _ => ()

/-- A field with a value for the case that it is missing. The field's place in
a row may be missing only if `inRow` says so. -/
def field (name : String) (inner : Json → Fit α) (absent : Fit α) (inRow : Bool) : Schema α where
  fields := [⟨name, checkOf inner⟩]
  ofMembers members :=
    match Json.lookup name members with
    | some v => inner v
    | none => absent
  ofItems expected place
    | v :: rest => (inner v).map fun a => (a, rest)
    | [] =>
      if inRow then absent.map fun a => (a, [])
      else .error (.invalidLength place expected)

def required (name : String) (inner : Json → Fit α) : Schema α :=
  field name inner (.error (.missingField name)) false

def optional (name : String) (inner : Json → Fit α) : Schema (Option α) :=
  field name (Fit.option inner) (.ok none) false

/-- An optional field that may also be missing at the end of a row. -/
def trailing (name : String) (inner : Json → Fit α) : Schema (Option α) :=
  field name (Fit.option inner) (.ok none) true

def withDefault (name : String) (inner : Json → Fit α) (default : α) : Schema α :=
  field name inner (.ok default) true

def map (f : α → β) (s : Schema α) : Schema β where
  fields := s.fields
  ofMembers members := (s.ofMembers members).map f
  ofItems expected place items := (s.ofItems expected place items).map fun (a, r) => (f a, r)

def seq (f : Schema (α → β)) (s : Unit → Schema α) : Schema β where
  fields := f.fields ++ (s ()).fields
  ofMembers members := do
    let g ← f.ofMembers members
    (s ()).ofMembers members |>.map g
  ofItems expected place items := do
    let (g, rest) ← f.ofItems expected place items
    ((s ()).ofItems expected (place + f.fields.length) rest).map fun (a, r) => (g a, r)

instance : Functor Schema where
  map := Schema.map

instance : Seq Schema where
  seq := Schema.seq

def names (s : Schema α) : List String := s.fields.map Field.name

/-- Every member is checked in the order in which it stands; in a strict
record each one must be declared. -/
def checkMembers (strict : Bool) (fields : List Field) : Json.Members → Fit Unit
  | [] => .ok ()
  | (name, v) :: rest =>
    match fields.find? (·.name = name) with
    | some f => do
      f.check v
      checkMembers strict fields rest
    | none =>
      if strict then .error (.unknownField name (fields.map Field.name))
      else checkMembers strict fields rest

def readMembers (strict : Bool) (s : Schema α) (members : Json.Members) : Fit α := do
  checkMembers strict s.fields members
  s.ofMembers members

/-- A record of this type name, given as an object or as an array. -/
def read (strict : Bool) (type : String) (s : Schema α) : Json → Fit α
  | .obj members => s.readMembers strict members
  | .arr items => do
    let n := s.fields.length
    let expected := "struct " ++ type ++ " with " ++ toString n ++
      (if n = 1 then " element" else " elements")
    let (a, rest) ← s.ofItems expected 0 items
    if rest.isEmpty then .ok a
    else .error (.invalidLength items.length "fewer elements in array")
  | v => .error (.invalidType v ("struct " ++ type))

end Schema
end OrgPipeline
