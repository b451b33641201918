import OrgPipeline.Text.Split

/-!
# References to characters in markup

Five characters are written by name where markup would take them for its own.
Reading also knows characters by the number of their code point. A sign that
starts no known reference is refused.
-/

set_option autoImplicit false

namespace OrgPipeline.Xml

def escapeChar (c : Char) : List Char :=
  if c = '<' then "&lt;".toList
  else if c = '>' then "&gt;".toList
  else if c = '&' then "&amp;".toList
  else if c = '\x27' then "&apos;".toList
  else if c = '"' then "&quot;".toList
  else [c]

def escape (cs : List Char) : List Char := cs.flatMap escapeChar

def named? (name : List Char) : Option Char :=
  if name = "lt".toList then some '<'
  else if name = "gt".toList then some '>'
  else if name = "amp".toList then some '&'
  else if name = "apos".toList then some '\x27'
  else if name = "quot".toList then some '"'
  else none

def digitIn? (base : Nat) (c : Char) : Option Nat :=
  let n :=
    if '0' ≤ c ∧ c ≤ '9' then some (c.toNat - '0'.toNat)
    else if 'a' ≤ c ∧ c ≤ 'f' then some (c.toNat - 'a'.toNat + 10)
    else if 'A' ≤ c ∧ c ≤ 'F' then some (c.toNat - 'A'.toNat + 10)
    else none
  n.filter (· < base)

def number? (base : Nat) (digits : List Char) : Option Nat :=
  if digits.isEmpty then none
  else digits.foldlM (fun n c => (digitIn? base c).map fun d => n * base + d) 0

def numbered? (digits : List Char) : Option Char := do
  let n ← match digits with
    | 'x' :: hex => number? 16 hex
    | decimal => number? 10 decimal
  if n ≠ 0 ∧ n.isValidChar then some (Char.ofNat n) else none

def reference? (body : List Char) : Option Char :=
  match body with
  | '#' :: digits => numbered? digits
  | name => named? name

/-- Reads text in which a reference may be under way (its characters so far,
last one first). -/
def unescapeFrom : Option (List Char) → List Char → Option (List Char)
  | none, [] => some []
  | some _, [] => none
  | none, c :: cs =>
    if c = '&' then unescapeFrom (some []) cs else (unescapeFrom none cs).map (c :: ·)
  | some body, c :: cs =>
    if c = ';' then do
      let d ← reference? body.reverse
      let rest ← unescapeFrom none cs
      some (d :: rest)
    else if c = '&' then none
    else unescapeFrom (some (c :: body)) cs

def unescape (cs : List Char) : Option (List Char) := unescapeFrom none cs

end OrgPipeline.Xml
