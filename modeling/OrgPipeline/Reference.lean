import OrgPipeline.Text.Blank
import OrgPipeline.Text.Split

/-!
# References

A text whose first character, blanks aside, is a dollar sign refers to a value
elsewhere: to the environment, an input, a variable, or the result of a step.
After the sign two pairs of braces may enclose the name, with blanks inside and
around them. Any other text is a literal.
-/

set_option autoImplicit false

namespace OrgPipeline

inductive Reference where
  | env (name : String)
  | input (id : String)
  | variable (id : String)
  | step (id : String) (path : List String)
  /-- None of the four name spaces. -/
  | unknown (body : String)
  deriving DecidableEq, Repr

namespace Reference

def sigil : Char := '$'

/-- Takes a pair of double braces off and trims what they enclose. -/
def stripBraces (body : List Char) : List Char :=
  if 4 ≤ body.length ∧ body.take 2 = ['\x7b', '\x7b'] ∧
      body.drop (body.length - 2) = ['\x7d', '\x7d'] then
    Text.trimList Text.isBlank ((body.drop 2).take (body.length - 4))
  else body

def ofStep (rest : List Char) : Reference :=
  match (Text.splitList '.' rest).map String.ofList with
  | [] => .step "" []
  | id :: path => .step id path

def envMark : List Char := "env.".toList
def inputMark : List Char := "input.".toList
def variableMark : List Char := "var.".toList
def stepMark : List Char := "step.".toList

def ofBody (body : List Char) : Reference :=
  match Text.afterList envMark body with
  | some rest => .env (String.ofList rest)
  | none =>
    match Text.afterList inputMark body with
    | some rest => .input (String.ofList rest)
    | none =>
      match Text.afterList variableMark body with
      | some rest => .variable (String.ofList rest)
      | none =>
        match Text.afterList stepMark body with
        | some rest => ofStep rest
        | none => .unknown (String.ofList body)

def parseList (raw : List Char) : Option Reference :=
  match Text.trimList Text.isBlank raw with
  | [] => none
  | c :: rest =>
    if c = sigil then some (ofBody (stripBraces (Text.trimList Text.isBlank rest))) else none

def parse (raw : String) : Option Reference := parseList raw.toList

def isReference (raw : String) : Bool :=
  (Text.trimList Text.isBlank raw.toList).head? == some sigil

theorem isReference_eq (raw : String) : isReference raw = (parse raw).isSome := by
  simp only [isReference, parse, parseList]
  cases h : Text.trimList Text.isBlank raw.toList with
  | nil => rfl
  | cons c rest => by_cases hc : c = sigil <;> simp [hc]

end Reference
end OrgPipeline
