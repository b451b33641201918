import OrgPipeline.Yaml.Scalar
import OrgPipeline.Text.Octets

/-!
# Tokens of a YAML text

The text is cut into tokens from left to right. Blocks begin and end by their
indentation. What may turn out to be a key on one line is remembered, and when
its colon comes the mark of the key is put before it, where a block may have to
begin as well.
-/

set_option autoImplicit false

namespace OrgPipeline.Yaml

inductive Token where
  | version (major minor : Nat)
  | tagDirective (handle lead : String)
  | documentStart
  | documentEnd
  | blockSequence
  | blockMapping
  | blockEnd
  | flowSequence
  | flowSequenceEnd
  | flowMapping
  | flowMappingEnd
  | blockEntry
  | flowEntry
  | key
  | value
  | reference (name : String)
  | anchor (name : String)
  | tag (handle suffix : String)
  /-- The flag says that the scalar is plain. -/
  | scalar (text : String) (plain : Bool)

/-- A place where a key may have started. -/
structure PossibleKey where
  /-- In its place only a key can stand. -/
  required : Bool
  /-- The number of tokens before it. -/
  token : Nat
  index : Nat
  line : Nat
  column : Nat

structure Scan where
  cursor : Cursor
  tokens : Array Token
  /-- The indentation of the innermost block, less than zero outside. -/
  indent : Int
  outer : List Int
  /-- The possible key of each level of brackets, innermost first. -/
  keys : List (Option PossibleKey)
  keyAllowed : Bool

namespace Scan

def start (cs : List Char) : Scan := ⟨.start cs, #[], -1, [], [none], true⟩

/-- Inside brackets indentation has no meaning. -/
def inFlow (s : Scan) : Bool := 1 < s.keys.length

def push (s : Scan) (t : Token) : Scan := { s with tokens := s.tokens.push t }

/-- Puts a token before the token of a given number. -/
def insertAt (s : Scan) (n : Nat) (t : Token) : Scan :=
  { s with tokens := s.tokens.insertIdxIfInBounds n t }

def skip (s : Scan) (n : Nat) : Scan := { s with cursor := s.cursor.skip n }

def allowKey (s : Scan) (allowed : Bool) : Scan := { s with keyAllowed := allowed }

/-- Opens a block at a column right of the indentation, its token before the
token of a given number. -/
def openBlock (s : Scan) (column : Nat) (at? : Option Nat) (t : Token) : Scan :=
  if s.inFlow || (column : Int) ≤ s.indent then s
  else
    let s := { s with outer := s.indent :: s.outer, indent := column }
    match at? with
    | none => s.push t
    | some n => if n = s.tokens.size then s.push t else s.insertAt n t

def closeBlocks (column : Int) : Nat → Scan → Scan
  | 0, s => s
  | fuel + 1, s =>
    if s.inFlow || s.indent ≤ column then s
    else
      match s.outer with
      | [] => s
      | i :: outer =>
        closeBlocks column fuel { s.push .blockEnd with indent := i, outer := outer }

def closeBlocksTo (s : Scan) (column : Int) : Scan := closeBlocks column s.outer.length s

def keyLimit : Nat := 1024

/-- Forgets possible keys that lie too far back; a required one is missed. -/
def dropStaleKeys (s : Scan) : Option Scan := do
  let keys ← s.keys.mapM fun k =>
    match k with
    | none => some none
    | some k =>
      if k.line < s.cursor.line ∨ k.index + keyLimit < s.cursor.index then
        if k.required then none else some none
      else some (some k)
  some { s with keys := keys }

/-- Gives the innermost possible key up; a required one is missed. -/
def dropKey (s : Scan) : Option Scan :=
  match s.keys with
  | some k :: rest => if k.required then none else some { s with keys := none :: rest }
  | _ => some s

def saveKey (s : Scan) : Option Scan := do
  if s.keyAllowed then
    let s ← s.dropKey
    let c := s.cursor
    let key : PossibleKey :=
      ⟨!s.inFlow && s.indent == (c.column : Int), s.tokens.size, c.index, c.line, c.column⟩
    some { s with keys := some key :: s.keys.tail }
  else some s

/-! ## Blanks, breaks and comments between tokens -/

/-- Tabs count as blanks only where no key can start. -/
def skipToToken : Nat → Scan → Scan
  | 0, s => s
  | fuel + 1, s =>
    let c := s.cursor
    let c := if c.index = 0 ∧ c.peek? = some byteOrderMark then c.skip 1 else c
    let tabs := s.inFlow || !s.keyAllowed
    let c := c.skipWhile fun d => d == ' ' || (tabs && d == '\t')
    let c := if c.holds (· == '#') then c.skipWhile (fun d => !isBreak d) else c
    if c.holds isBreak then
      skipToToken fuel { s with cursor := c.skipLine, keyAllowed := s.keyAllowed || !s.inFlow }
    else { s with cursor := c }

/-! ## Directives and node properties -/

/-- Digits of a version number, nine at most. -/
def versionNumber? (c : Cursor) : Option (Nat × Cursor) :=
  let digits := c.rest.takeWhile Char.isDigit
  if digits.isEmpty ∨ 9 < digits.length then none
  else some (Decimal.valueOf digits, c.skip digits.length)

/-- Characters of a tag; between angles and in directives some more. -/
def isTagChar (wide : Bool) (c : Char) : Bool :=
  isNameChar c || ";/?:@&=+$.!~*\x27()".toList.contains c ||
    (wide && (c == ',' || c == '[' || c == ']'))

/-- Octets given by percent signs, a whole character of them at a time. -/
def percentOctets : Nat → List Char → Option (Octets × Nat)
  | 0, _ => some ([], 0)
  | fuel + 1, cs =>
    match cs with
    | '%' :: a :: b :: rest =>
      match hexNumber? [a, b] with
      | none => none
      | some n => (percentOctets fuel rest).map fun (os, k) => (UInt8.ofNat n :: os, k + 3)
    | '%' :: _ => none
    | _ => some ([], 0)

def octetWidth? (n : Nat) : Option Nat :=
  if n < 0x80 then some 1
  else if n / 0x20 = 6 then some 2
  else if n / 0x10 = 14 then some 3
  else if n / 0x08 = 30 then some 4
  else none

def wellGrouped : Nat → Octets → Bool
  | 0, os => os.isEmpty
  | _ + 1, [] => true
  | fuel + 1, o :: os =>
    match octetWidth? o.toNat with
    | none => false
    | some w =>
      (os.take (w - 1)).length == w - 1 &&
        (os.take (w - 1)).all (fun p => p.toNat / 0x40 == 2) &&
        wellGrouped fuel (os.drop (w - 1))

def tagText (wide : Bool) : Nat → Cursor → String → Option (String × Cursor)
  | 0, c, text => some (text, c)
  | fuel + 1, c, text =>
    match c.peek? with
    | none => some (text, c)
    | some d =>
      if d = '%' then
        match percentOctets c.rest.length c.rest with
        | none => none
        | some (os, n) =>
          if wellGrouped os.length os then
            tagText wide fuel (c.skip n) (text ++ Octets.lossy os)
          else none
      else if isTagChar wide d then tagText wide fuel (c.skip 1) (text.push d)
      else some (text, c)

def tagTextFrom (wide : Bool) (c : Cursor) : Option (String × Cursor) :=
  tagText wide (c.rest.length + 1) c ""

/-- An exclamation mark, a name, and perhaps another mark; a directive needs
the second mark after a name. -/
def tagHandle? (directive : Bool) (c : Cursor) : Option (String × Cursor) :=
  if c.holds (· == '!') then
    let name := (c.rest.drop 1).takeWhile isNameChar
    let c := c.skip (1 + name.length)
    if c.holds (· == '!') then some (String.ofList ('!' :: name ++ ['!']), c.skip 1)
    else if directive ∧ !name.isEmpty then none
    else some (String.ofList ('!' :: name), c)
  else none

def directive? (c : Cursor) : Option (Token × Cursor) := do
  let name := (c.rest.drop 1).takeWhile isNameChar
  let c := c.skip (1 + name.length)
  if name.isEmpty || !c.blankAt 0 then none
  else if name = "YAML".toList then
    let (major, c) ← versionNumber? (c.skipWhile isBlank)
    if c.holds (· == '.') then
      let (minor, c) ← versionNumber? (c.skip 1)
      some (.version major minor, c)
    else none
  else if name = "TAG".toList then
    let (handle, c) ← tagHandle? true (c.skipWhile isBlank)
    if c.holds isBlank then
      let (lead, c) ← tagTextFrom true (c.skipWhile isBlank)
      if lead.isEmpty || !c.blankAt 0 then none else some (.tagDirective handle lead, c)
    else none
  else none

def name? (c : Cursor) : Option (String × Cursor) :=
  let name := c.rest.takeWhile isNameChar
  let c := c.skip name.length
  if name.isEmpty then none
  else if c.blankAt 0 || c.holds (fun d => "?:,]\x7d%@\x60".toList.contains d) then
    some (String.ofList name, c)
  else none

/-- A tag in its three forms: between angles, after a handle, and local. -/
def tag? (c : Cursor) : Option (Token × Cursor) := do
  if c.look? 1 == some '<' then
    let (suffix, c) ← tagTextFrom true (c.skip 2)
    if suffix.isEmpty || !c.holds (· == '>') then none else some (.tag "" suffix, c.skip 1)
  else
    let (handle, c) ← tagHandle? false c
    if 2 ≤ handle.length ∧ handle.toList.getLast? = some '!' then
      let (suffix, c) ← tagTextFrom false c
      if suffix.isEmpty then none else some (.tag handle suffix, c)
    else
      let (more, c) ← tagTextFrom false c
      let suffix := String.ofList (handle.toList.drop 1) ++ more
      some (if suffix.isEmpty then .tag "" "!" else .tag "!" suffix, c)

/-! ## One token -/

def sign (s : Scan) (t : Token) : Scan := (s.skip 1).push t

def fetchMarker (s : Scan) (t : Token) : Option Scan := do
  let s ← (s.closeBlocksTo (-1)).dropKey
  some (((s.allowKey false).skip 3).push t)

def fetchDirective (s : Scan) : Option Scan := do
  let s ← (s.closeBlocksTo (-1)).dropKey
  let (t, c) ← directive? s.cursor
  let c ← c.skipRestOfLine
  some ({ s with cursor := c, keyAllowed := false }.push t)

def fetchFlowStart (s : Scan) (t : Token) : Option Scan := do
  let s ← s.saveKey
  some ({ s with keys := none :: s.keys, keyAllowed := true }.sign t)

def fetchFlowEnd (s : Scan) (t : Token) : Option Scan := do
  let s ← s.dropKey
  let keys := if s.inFlow then s.keys.tail else s.keys
  some ({ s with keys := keys, keyAllowed := false }.sign t)

def fetchFlowEntry (s : Scan) : Option Scan := do
  let s ← s.dropKey
  some ((s.allowKey true).sign .flowEntry)

def fetchBlockEntry (s : Scan) : Option Scan := do
  if !s.inFlow && !s.keyAllowed then none
  else
    let s ← (s.openBlock s.cursor.column none .blockSequence).dropKey
    some ((s.allowKey true).sign .blockEntry)

def fetchKey (s : Scan) : Option Scan := do
  if !s.inFlow && !s.keyAllowed then none
  else
    let s ← (s.openBlock s.cursor.column none .blockMapping).dropKey
    some ((s.allowKey (!s.inFlow)).sign .key)

/-- A colon: the key before it gets its mark now, or none has been seen. -/
def fetchValue (s : Scan) : Option Scan :=
  match s.keys with
  | some k :: rest =>
    let s := if k.token = s.tokens.size then s.push .key else s.insertAt k.token .key
    let s := s.openBlock k.column (some k.token) .blockMapping
    some ({ s with keys := none :: rest, keyAllowed := false }.sign .value)
  | _ =>
    if !s.inFlow && !s.keyAllowed then none
    else
      let s := s.openBlock s.cursor.column none .blockMapping
      some ((s.allowKey (!s.inFlow)).sign .value)

def fetchName (s : Scan) (make : String → Token) : Option Scan := do
  let s ← s.saveKey
  let (name, c) ← name? (s.cursor.skip 1)
  some ({ s with cursor := c, keyAllowed := false }.push (make name))

def fetchTag (s : Scan) : Option Scan := do
  let s ← s.saveKey
  let (t, c) ← tag? s.cursor
  if c.blankAt 0 || (s.inFlow && c.holds (· == ',')) then
    some ({ s with cursor := c, keyAllowed := false }.push t)
  else none

def fetchBlockScalar (s : Scan) (folded : Bool) : Option Scan := do
  let s ← s.dropKey
  let (text, c) ← blockScalar folded s.indent (s.cursor.skip 1)
  some ({ s with cursor := c, keyAllowed := true }.push (.scalar (String.ofList text) false))

def fetchQuoted (s : Scan) (quote : Char) : Option Scan := do
  let s ← s.saveKey
  let c := s.cursor.skip 1
  let (text, c) ← quotedScalar quote (c.rest.length + 1) c []
  some ({ s with cursor := c, keyAllowed := false }.push (.scalar (String.ofList text) false))

def fetchPlain (s : Scan) : Option Scan := do
  let s ← s.saveKey
  let c := s.cursor
  let (text, broken, c) ← plainScalar s.inFlow (s.indent + 1) (c.rest.length + 1) Gap.none c []
  some ({ s with cursor := c, keyAllowed := broken }.push (.scalar (String.ofList text) true))

def isIndicator (c : Char) : Bool := "-?:,[]\x7b\x7d#&*!|>\x27\"%@\x60".toList.contains c

def startsPlain (s : Scan) (c : Char) : Bool :=
  !(isIndicator c || isBlank c) ||
    (!s.cursor.blankAt 1 && (c == '-' || (!s.inFlow && (c == '?' || c == ':'))))

def fetchAt (s : Scan) (c : Char) : Option Scan :=
  let flow := s.inFlow
  let apart := s.cursor.blankAt 1
  if s.cursor.column = 0 ∧ c = '%' then s.fetchDirective
  else if s.cursor.atMarker '-' then s.fetchMarker .documentStart
  else if s.cursor.atMarker '.' then s.fetchMarker .documentEnd
  else if c = '[' then s.fetchFlowStart .flowSequence
  else if c = '\x7b' then s.fetchFlowStart .flowMapping
  else if c = ']' then s.fetchFlowEnd .flowSequenceEnd
  else if c = '\x7d' then s.fetchFlowEnd .flowMappingEnd
  else if c = ',' then s.fetchFlowEntry
  else if c = '-' && apart then s.fetchBlockEntry
  else if c = '?' && (flow || apart) then s.fetchKey
  else if c = ':' && (flow || apart) then s.fetchValue
  else if c = '*' then s.fetchName .reference
  else if c = '&' then s.fetchName .anchor
  else if c = '!' then s.fetchTag
  else if c = '|' && !flow then s.fetchBlockScalar false
  else if c = '>' && !flow then s.fetchBlockScalar true
  else if c = singleQuote then s.fetchQuoted singleQuote
  else if c = '"' then s.fetchQuoted '"'
  else if s.startsPlain c then s.fetchPlain
  else none

def finish (s : Scan) : Option (List Token) := do
  let s ← (s.closeBlocksTo (-1)).dropKey
  some s.tokens.toList

def run : Nat → Scan → Option (List Token)
  | 0, _ => none
  | fuel + 1, s => do
    let s ← (skipToToken (s.cursor.rest.length + 1) s).dropStaleKeys
    match s.cursor.peek? with
    | none => s.finish
    | some c =>
      let s ← (s.closeBlocksTo s.cursor.column).fetchAt c
      run fuel s

end Scan

def tokens? (cs : List Char) : Option (List Token) :=
  let start := Scan.start cs
  if cs.all isPrintable then Scan.run (cs.length + 2) start else none

end OrgPipeline.Yaml
