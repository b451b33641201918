import OrgPipeline.Json.Basic
import OrgPipeline.Text.Split

/-!
# Printing JSON

Indented text with two blanks for each level; an empty array or object stays on
one line. Of the control characters five have a short escape.
-/

set_option autoImplicit false

namespace OrgPipeline.Json

def lowerHexDigit (n : Nat) : Char := (Nat.digitChar n)

def escapeChar (c : Char) : List Char :=
  if c = '"' then ['\\', '"']
  else if c = '\\' then ['\\', '\\']
  else if c = '\x08' then ['\\', 'b']
  else if c = '\t' then ['\\', 't']
  else if c = '\n' then ['\\', 'n']
  else if c = '\x0c' then ['\\', 'f']
  else if c = '\r' then ['\\', 'r']
  else if c.toNat < 0x20 then
    ['\\', 'u', '0', '0', lowerHexDigit (c.toNat / 16), lowerHexDigit (c.toNat % 16)]
  else [c]

def quotedList (cs : List Char) : List Char := '"' :: (cs.flatMap escapeChar ++ ['"'])

def quoted (s : String) : String := String.ofList (quotedList s.toList)

def lineStart (level : Nat) : String := "\n" ++ String.ofList (List.replicate (2 * level) ' ')

def block (opening closing : String) (level : Nat) (lines : List String) : String :=
  if lines.isEmpty then opening ++ closing
  else
    opening ++ lineStart (level + 1) ++ Text.join ("," ++ lineStart (level + 1)) lines ++
      lineStart level ++ closing

mutual

def printAt (level : Nat) : Json → String
  | .null => "null"
  | .bool b => if b then "true" else "false"
  | .num n => n.text
  | .str s => quoted s
  | .arr items => block "[" "]" level (printItems (level + 1) items)
  | .obj members => block "\x7b" "\x7d" level (printMembers (level + 1) members)

def printItems (level : Nat) : List Json → List String
  | [] => []
  | v :: rest => printAt level v :: printItems level rest

def printMembers (level : Nat) : List (String × Json) → List String
  | [] => []
  | (name, v) :: rest => (quoted name ++ ": " ++ printAt level v) :: printMembers level rest

end

def print (v : Json) : String := printAt 0 v

end OrgPipeline.Json
