import OrgPipeline.Decimal.Layout

/-!
# JSON values

Numbers are integers of 64 bits, signed or not, or floating point. The members
of an object stand in the order of their names, each name once; `Json.object`
brings any list of members into that form, a later member of a name replacing
an earlier one.
-/

set_option autoImplicit false

namespace OrgPipeline

/-- A JSON number: an integer, or floating point where the text has a
fraction, an exponent or too many digits. -/
inductive Number where
  | int (n : Int)
  | float (x : Float)

namespace Number

def toFloat : Number → Float
  | .int n => Decimal.ofInt n
  | .float x => x

def text : Number → String
  | .int n => toString n
  | .float x => Decimal.jsonLayout.text x

end Number

inductive Json where
  | null
  | bool (b : Bool)
  | num (n : Number)
  | str (s : String)
  | arr (items : List Json)
  | obj (members : List (String × Json))

instance : Inhabited Json := ⟨.null⟩

namespace Json

abbrev Members := List (String × Json)

/-- Puts a member where its name belongs, in place of one of that name. -/
def putMember (name : String) (value : Json) : Members → Members
  | [] => [(name, value)]
  | (n, v) :: rest =>
    if name < n then (name, value) :: (n, v) :: rest
    else if name = n then (name, value) :: rest
    else (n, v) :: putMember name value rest

def sortMembers (members : Members) : Members :=
  members.foldl (fun acc m => putMember m.1 m.2 acc) []

def object (members : Members) : Json := .obj (sortMembers members)

def int (n : Int) : Json := .num (.int n)

def nat (n : Nat) : Json := .num (.int n)

def float (x : Float) : Json := .num (.float x)

def strings (ss : List String) : Json := .arr (ss.map .str)

def orNull : Option Json → Json
  | some v => v
  | none => .null

def member? (name : String) : Option Json → Members
  | some v => [(name, v)]
  | none => []

def lookup (name : String) : Members → Option Json
  | [] => none
  | (n, v) :: rest => if n = name then some v else lookup name rest

def get? (v : Json) (name : String) : Option Json :=
  match v with
  | .obj members => lookup name members
  | _ => none

def asString? : Json → Option String
  | .str s => some s
  | _ => none

def isNull : Json → Bool
  | .null => true
  | _ => false

def isTrue : Json → Bool
  | .bool b => b
  | _ => false

/-- The text of a boolean, a number or a string; nothing else is a scalar. -/
def scalar? : Json → Option String
  | .bool b => some (if b then "true" else "false")
  | .num n => some n.text
  | .str s => some s
  | .null | .arr _ | .obj _ => none

theorem lookup_putMember (name k : String) (v : Json) (ms : Members) :
    lookup k (putMember name v ms) = if name = k then some v else lookup k ms := by
  induction ms with
  | nil => simp [putMember, lookup]
  | cons m ms ih =>
    obtain ⟨n, w⟩ := m
    rw [putMember]
    split
    · simp [lookup]
    · split
      · next h => subst h; by_cases hk : name = k <;> simp [lookup, hk]
      · next h =>
        by_cases hk : n = k
        · subst hk; simp [lookup, h]
        · simp [lookup, hk, ih]

end Json
end OrgPipeline
