import OrgPipeline.Text.Blank

/-!
# A place in a YAML text

The text that is left, and where it starts: how many characters, lines and
columns lie before it. Five characters end a line; a carriage return and a line
feed together end one line.
-/

set_option autoImplicit false

namespace OrgPipeline.Yaml

structure Cursor where
  rest : List Char
  index : Nat
  line : Nat
  column : Nat

def isBlank (c : Char) : Bool := c == ' ' || c == '\t'

def isBreak (c : Char) : Bool :=
  c == '\r' || c == '\n' || c.toNat == 0x85 || c.toNat == 0x2028 || c.toNat == 0x2029

def isNameChar (c : Char) : Bool := c.isAlphanum || c == '_' || c == '-'

def isPrintable (c : Char) : Bool :=
  let n := c.toNat
  n == 0x09 || n == 0x0A || n == 0x0D || (0x20 ≤ n && n ≤ 0x7E) || n == 0x85 ||
    (0xA0 ≤ n && n ≤ 0xD7FF) || (0xE000 ≤ n && n ≤ 0xFFFD) || 0x10000 ≤ n

def byteOrderMark : Char := Char.ofNat 0xFEFF

namespace Cursor

/-- The start of a text; one mark of byte order before it does not count. -/
def start (cs : List Char) : Cursor :=
  match cs with
  | c :: rest => ⟨if c = byteOrderMark then rest else c :: rest, 0, 0, 0⟩
  | [] => ⟨[], 0, 0, 0⟩

def peek? (c : Cursor) : Option Char := c.rest.head?

def look? (c : Cursor) (n : Nat) : Option Char := c.rest[n]?

def atEnd (c : Cursor) : Bool := c.rest.isEmpty

def holds (c : Cursor) (p : Char → Bool) : Bool := c.peek?.any p

/-- The character some places on is missing or satisfies `p`. -/
def endOr (c : Cursor) (n : Nat) (p : Char → Bool) : Bool := (c.look? n).all p

def blankAt (c : Cursor) (n : Nat) : Bool := c.endOr n fun d => isBlank d || isBreak d

def breakOrEnd (c : Cursor) : Bool := c.endOr 0 isBreak

def skip (c : Cursor) (n : Nat) : Cursor :=
  let n := min n c.rest.length
  ⟨c.rest.drop n, c.index + n, c.line, c.column + n⟩

def skipWhile (c : Cursor) (p : Char → Bool) : Cursor := c.skip (c.rest.takeWhile p).length

def skipLine (c : Cursor) : Cursor :=
  match c.rest with
  | '\r' :: '\n' :: rest => ⟨rest, c.index + 2, c.line + 1, 0⟩
  | d :: rest => if isBreak d then ⟨rest, c.index + 1, c.line + 1, 0⟩ else c
  | [] => c

/-- What a line break here reads as: mostly a line feed. -/
def lineText (c : Cursor) : List Char :=
  match c.rest with
  | d :: _ =>
    if d.toNat == 0x2028 || d.toNat == 0x2029 then [d] else if isBreak d then ['\n'] else []
  | [] => []

/-- Passes over blanks and a comment up to the end of the line; none if
anything else is left on it. -/
def skipRestOfLine (c : Cursor) : Option Cursor :=
  let c := c.skipWhile isBlank
  let c := if c.holds (· == '#') then c.skipWhile (fun d => !isBreak d) else c
  if c.breakOrEnd then some c.skipLine else none

/-- The marker of a document's start or end stands at the start of a line. -/
def atMarker (c : Cursor) (mark : Char) : Bool :=
  c.column == 0 && c.rest.take 3 == [mark, mark, mark] && c.blankAt 3

def atDocumentMarker (c : Cursor) : Bool := c.atMarker '-' || c.atMarker '.'

end Cursor
end OrgPipeline.Yaml
