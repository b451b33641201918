import OrgPipeline.Text.Blank

/-!
# Attributes

Attributes follow the name of a tag: a key, a sign of equality and a value in
quotes of either kind, with blanks between them where one likes.
-/

set_option autoImplicit false

namespace OrgPipeline.Xml

open Text (isMarkupBlank)

inductive NextAttribute where
  | none
  | malformed
  | found (key value rest : List Char)

def skipBlanks (cs : List Char) : List Char := cs.dropWhile isMarkupBlank

def attributeValue (key cs : List Char) : NextAttribute :=
  match skipBlanks cs with
  | [] => .malformed
  | quote :: rest =>
    if quote = '"' ∨ quote = '\x27' then
      match rest.dropWhile (· ≠ quote) with
      | [] => .malformed
      | _ :: after => .found key (rest.takeWhile (· ≠ quote)) after
    else .malformed

/-- The first attribute of a text. A key has at least one character, whatever
it is, and goes on to a blank or a sign of equality. -/
def nextAttribute (cs : List Char) : NextAttribute :=
  match skipBlanks cs with
  | [] => .none
  | c :: rest =>
    let ends (d : Char) : Bool := d == '=' || isMarkupBlank d
    let key := c :: rest.takeWhile fun d => !ends d
    match skipBlanks (rest.dropWhile fun d => !ends d) with
    | '=' :: after => attributeValue key after
    | _ => .malformed

/-- Searches the attributes for a key. With `unique` no key may come twice up
to the place where the search ends. The outer none is a malformed attribute. -/
def findAttribute (unique : Bool) (key : List Char) :
    Nat → List (List Char) → List Char → Option (Option (List Char))
  | 0, _, _ => some none
  | fuel + 1, seen, cs =>
    match nextAttribute cs with
    | .none => some none
    | .malformed => none
    | .found k value rest =>
      if unique && seen.contains k then none
      else if k = key then some (some value)
      else findAttribute unique key fuel (k :: seen) rest

def attribute? (unique : Bool) (key : String) (cs : List Char) : Option (Option (List Char)) :=
  findAttribute unique key.toList (cs.length + 1) [] cs

end OrgPipeline.Xml
