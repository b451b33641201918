import OrgPipeline.Yaml.Cursor
import OrgPipeline.Json.Reader

/-!
# Scalars in a YAML text

Plain, quoted and block scalars, each read from the place where it starts. A
single line break inside a plain or quoted scalar reads as a blank; of several
the first one is dropped.
-/

set_option autoImplicit false

namespace OrgPipeline.Yaml

/-- Blanks and line breaks between two pieces of a scalar. Once a line has
ended, the blanks no longer count. -/
structure Gap where
  blanks : List Char
  broken : Bool
  first : List Char
  others : List Char

namespace Gap

def none : Gap := ⟨[], false, [], []⟩

/-- A line break that was escaped: nothing of it remains. -/
def escaped : Gap := ⟨[], true, [], []⟩

def isEmpty (g : Gap) : Bool := !g.broken && g.blanks.isEmpty

def text (g : Gap) : List Char :=
  if g.broken then
    if g.first.head? == some '\n' then (if g.others.isEmpty then [' '] else g.others)
    else g.first ++ g.others
  else g.blanks

/-- Extends a gap over blanks and breaks. Left of `margin` a tab may not stand
at the start of a line. -/
def extend (margin : Int) : Nat → Gap → Cursor → Option (Gap × Cursor)
  | 0, _, _ => Option.none
  | fuel + 1, g, c =>
    match c.rest with
    | [] => some (g, c)
    | d :: _ =>
      if isBlank d then
        if g.broken then
          if d = '\t' ∧ (c.column : Int) < margin then Option.none
          else extend margin fuel g (c.skip 1)
        else extend margin fuel { g with blanks := g.blanks ++ [d] } (c.skip 1)
      else if isBreak d then
        let g :=
          if g.broken then { g with others := g.others ++ c.lineText }
          else { g with blanks := [], broken := true, first := c.lineText }
        extend margin fuel g c.skipLine
      else some (g, c)

end Gap

def noMargin : Int := -1

/-! ## Plain scalars -/

def isFlowIndicator (c : Char) : Bool :=
  c == ',' || c == '[' || c == ']' || c == '\x7b' || c == '\x7d'

/-- The characters of a plain scalar up to a blank, a break or an indicator
that ends it, and what follows. A colon before an indicator is refused inside
brackets. -/
def plainPiece (flow : Bool) : List Char → Option (List Char)
  | [] => some []
  | c :: rest =>
    if isBlank c || isBreak c then some []
    else if c = ':' ∧ (rest.head?.all fun d => isBlank d || isBreak d) then some []
    else if flow && c == ':' && (rest.head?.any fun d => isFlowIndicator d || d == '?') then none
    else if flow && isFlowIndicator c then some []
    else (plainPiece flow rest).map (c :: ·)

/-- A plain scalar from here on: its text, whether a line ended after its last
character, and what follows. -/
def plainScalar (flow : Bool) (margin : Int) : Nat → Gap → Cursor → List Char →
    Option (List Char × Bool × Cursor)
  | 0, _, _, _ => none
  | fuel + 1, gap, c, text =>
    if c.atDocumentMarker || c.holds (· == '#') then some (text, gap.broken, c)
    else
      match plainPiece flow c.rest with
      | none => none
      | some piece =>
        let text := if piece.isEmpty then text else text ++ gap.text ++ piece
        let gap := if piece.isEmpty then gap else Gap.none
        let c := c.skip piece.length
        if c.holds fun d => isBlank d || isBreak d then
          match Gap.extend margin (c.rest.length + 1) gap c with
          | none => none
          | some (gap, c) =>
            if !flow && (c.column : Int) < margin then some (text, gap.broken, c)
            else plainScalar flow margin fuel gap c text
        else some (text, gap.broken, c)

/-! ## Quoted scalars -/

def hexNumber? (cs : List Char) : Option Nat :=
  cs.foldlM (fun n c => (Json.hexValue? c).map fun d => n * 16 + d) 0

def codePoint? (length : Nat) (cs : List Char) : Option Char :=
  if cs.length < length then none
  else
    match hexNumber? (cs.take length) with
    | none => none
    | some n => if n.isValidChar then some (Char.ofNat n) else none

/-- What a backslash and the characters after it stand for, and how many
characters those are. -/
def escapeOf? (c : Char) (rest : List Char) : Option (Char × Nat) :=
  match c with
  | '0' => some ('\x00', 1)
  | 'a' => some ('\x07', 1)
  | 'b' => some ('\x08', 1)
  | 't' => some ('\t', 1)
  | '\t' => some ('\t', 1)
  | 'n' => some ('\n', 1)
  | 'v' => some ('\x0b', 1)
  | 'f' => some ('\x0c', 1)
  | 'r' => some ('\r', 1)
  | 'e' => some ('\x1b', 1)
  | ' ' => some (' ', 1)
  | '"' => some ('"', 1)
  | '/' => some ('/', 1)
  | '\\' => some ('\\', 1)
  | 'N' => some (Char.ofNat 0x85, 1)
  | '_' => some (Char.ofNat 0xA0, 1)
  | 'L' => some (Char.ofNat 0x2028, 1)
  | 'P' => some (Char.ofNat 0x2029, 1)
  | 'x' => (codePoint? 2 rest).map fun d => (d, 3)
  | 'u' => (codePoint? 4 rest).map fun d => (d, 5)
  | 'U' => (codePoint? 8 rest).map fun d => (d, 9)
  | _ => none

def singleQuote : Char := '\x27'

/-- The piece of a quoted scalar up to a blank, a break, the closing quote or
an escaped break (then the flag is set). -/
def quotedPiece (quote : Char) : Nat → Cursor → List Char → Option (List Char × Bool × Cursor)
  | 0, _, _ => none
  | fuel + 1, c, text =>
    match c.rest with
    | [] => some (text, false, c)
    | d :: rest =>
      if isBlank d || isBreak d then some (text, false, c)
      else if d = quote then
        if quote = singleQuote ∧ rest.head? = some singleQuote then
          quotedPiece quote fuel (c.skip 2) (text ++ [d])
        else some (text, false, c)
      else if quote = '"' ∧ d = '\\' then
        match rest with
        | [] => none
        | e :: after =>
          if isBreak e then some (text, true, (c.skip 1).skipLine)
          else
            match escapeOf? e after with
            | none => none
            | some (f, n) => quotedPiece quote fuel (c.skip (n + 1)) (text ++ [f])
      else quotedPiece quote fuel (c.skip 1) (text ++ [d])

def quotedScalar (quote : Char) : Nat → Cursor → List Char → Option (List Char × Cursor)
  | 0, _, _ => none
  | fuel + 1, c, text =>
    if c.atDocumentMarker || c.atEnd then none
    else
      match quotedPiece quote (c.rest.length + 1) c text with
      | none => none
      | some (text, escapedBreak, c) =>
        if !escapedBreak && c.holds (· == quote) then some (text, c.skip 1)
        else
          let gap := if escapedBreak then Gap.escaped else Gap.none
          match gap.extend noMargin (c.rest.length + 1) c with
          | none => none
          | some (gap, c) => quotedScalar quote fuel c (text ++ gap.text)

/-! ## Block scalars -/

inductive Chomping where
  | strip
  | clip
  | keep
  deriving DecidableEq

/-- The indicators after the bar or angle: how the end is treated, and an
explicit indentation. -/
structure BlockHeader where
  chomping : Chomping
  increment : Option Nat

def chompingOf? (c : Char) : Option Chomping :=
  if c = '+' then some .keep else if c = '-' then some .strip else none

/-- The indicators in either order, each at most once; no indentation of zero. -/
def blockHeader? (c : Cursor) : Option (BlockHeader × Cursor) :=
  let increment? (c : Cursor) : Option (Option Nat × Cursor) :=
    match c.peek? with
    | some d =>
      if d.isDigit then (if d = '0' then none else some (some (d.toNat - 48), c.skip 1))
      else some (none, c)
    | none => some (none, c)
  match c.peek?.bind chompingOf? with
  | some chomping => (increment? (c.skip 1)).map fun (n, c) => (⟨chomping, n⟩, c)
  | none =>
    match increment? c with
    | none => none
    | some (none, c) => some (⟨.clip, none⟩, c)
    | some (some n, c) =>
      match c.peek?.bind chompingOf? with
      | some chomping => some (⟨chomping, some n⟩, c.skip 1)
      | none => some (⟨.clip, some n⟩, c)

/-- Passes over indentation and empty lines: the breaks read, the indentation
(the widest one seen, if it is still to be found), and what follows. A tab in
the indentation is refused. -/
def blockBreaks (indent : Nat) : Nat → Nat → Cursor → List Char →
    Option (List Char × Nat × Cursor)
  | 0, _, _, _ => none
  | fuel + 1, widest, c, breaks =>
    let spaces := (c.rest.takeWhile (· == ' ')).length
    let room := if indent = 0 then spaces else min spaces (indent - c.column)
    let c := c.skip room
    let widest := max widest c.column
    if (indent = 0 || c.column < indent) && c.holds (· == '\t') then none
    else if c.holds isBreak then
      blockBreaks indent fuel widest c.skipLine (breaks ++ c.lineText)
    else some (breaks, widest, c)

structure BlockText where
  text : List Char
  /-- The break that ended the last line. -/
  first : List Char
  others : List Char
  /-- The last line started with a blank. -/
  indented : Bool

def blockLines (folded : Bool) (indent : Nat) : Nat → BlockText → Cursor →
    Option (BlockText × Cursor)
  | 0, _, _ => none
  | fuel + 1, b, c =>
    if c.column == indent && !c.atEnd then
      let starts := c.holds isBlank
      let joined :=
        if folded && b.first.head? == some '\n' && !b.indented && !starts then
          (if b.others.isEmpty then [' '] else [])
        else b.first
      let line := c.rest.takeWhile fun d => !isBreak d
      let c := c.skip line.length
      let first := c.lineText
      let c := c.skipLine
      match blockBreaks indent (c.rest.length + 1) 0 c [] with
      | none => none
      | some (others, _, c) =>
        let text := b.text ++ joined ++ b.others ++ line
        blockLines folded indent fuel ⟨text, first, others, starts⟩ c
    else some (b, c)

/-- A block scalar after its bar or angle, inside a block of this indentation
(less than zero outside every block). -/
def blockScalar (folded : Bool) (outer : Int) (c : Cursor) : Option (List Char × Cursor) := do
  let (header, c) ← blockHeader? c
  let c ← c.skipRestOfLine
  let given := match header.increment with
    | some n => if 0 ≤ outer then outer.toNat + n else n
    | none => 0
  let (others, widest, c) ← blockBreaks given (c.rest.length + 1) 0 c []
  let indent := if given = 0 then max (max widest (outer + 1).toNat) 1 else given
  let (b, c) ← blockLines folded indent (c.rest.length + 1) ⟨[], [], others, false⟩ c
  let tail := match header.chomping with
    | .strip => []
    | .clip => b.first
    | .keep => b.first ++ b.others
  some (b.text ++ tail, c)

end OrgPipeline.Yaml
