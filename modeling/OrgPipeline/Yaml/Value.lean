import OrgPipeline.Yaml.Node
import OrgPipeline.Json.Basic
import OrgPipeline.Decimal.Reader

/-!
# Values of a YAML document

A document is read as a JSON value. Plain scalars are null, booleans, integers
or floating-point numbers where they look like it, and text otherwise; quoted
scalars are text. Of equal keys the last one counts. Aliases stand for the node
they name; the number of times they may be followed grows with the document.
-/

set_option autoImplicit false

namespace OrgPipeline.Yaml

/-! ## Scalars -/

def isNullText (s : List Char) : Bool :=
  ["null".toList, "Null".toList, "NULL".toList, ['~']].contains s

def boolText? (s : List Char) : Option Bool :=
  if ["true".toList, "True".toList, "TRUE".toList].contains s then some true
  else if ["false".toList, "False".toList, "FALSE".toList].contains s then some false
  else none

def startsWithSign : List Char → Bool
  | c :: _ => c == '+' || c == '-'
  | [] => false

/-- Digits with leading zeros are text, not a number. -/
def isPaddedDigits (s : List Char) : Bool :=
  let s := if startsWithSign s then s.drop 1 else s
  match s with
  | '0' :: rest => !rest.isEmpty && rest.all Decimal.isDigit
  | _ => false

def digitIn? (base : Nat) (c : Char) : Option Nat :=
  (Json.hexValue? c).filter (· < base)

def natural? (base : Nat) (s : List Char) : Option Nat :=
  if s.isEmpty then none
  else s.foldlM (fun n c => (digitIn? base c).map fun d => n * base + d) 0

def based? (s : List Char) : Option (Nat × List Char) :=
  match s with
  | '0' :: 'x' :: rest => some (16, rest)
  | '0' :: 'o' :: rest => some (8, rest)
  | '0' :: 'b' :: rest => some (2, rest)
  | _ => none

def unsigned? (s : List Char) : Option Nat :=
  let body := match s with
    | '+' :: rest => rest
    | rest => rest
  let marked := (based? body).bind fun (base, digits) => natural? base digits
  match marked with
  | some n => some n
  | none => if isPaddedDigits s then none else natural? 10 body

def negative? (s : List Char) : Option Nat :=
  match s with
  | '-' :: body =>
    let marked := (based? body).bind fun (base, digits) => natural? base digits
    match marked with
    | some n => some n
    | none => if isPaddedDigits s then none else natural? 10 body
  | _ => none

/-- An integer in sight: its value, or none if no value can hold it. -/
inductive IntegerText where
  | fits (n : Int)
  | tooWide
  | other

/-- Beyond 64 bits and within 128 a number is refused; longer ones are no
integers at all. -/
def integerOf (s : List Char) : IntegerText :=
  match unsigned? s, negative? s with
  | some n, _ =>
    if n < Decimal.twoTo 64 then .fits n else if n < Decimal.twoTo 128 then .tooWide else .other
  | _, some n =>
    if n ≤ Decimal.twoTo 63 then .fits (-n) else if n ≤ Decimal.twoTo 127 then .tooWide else .other
  | none, none => .other

def isInfinityName (s : List Char) : Bool :=
  [".inf".toList, ".Inf".toList, ".INF".toList].contains s

def isNanName (s : List Char) : Bool :=
  [".nan".toList, ".NaN".toList, ".NAN".toList].contains s

/-- A floating-point number; the named ones have no value in JSON. -/
def floatOf? (s : List Char) : Option Json :=
  let body := match s with
    | '+' :: rest => if startsWithSign rest then none else some rest
    | rest => some rest
  match body with
  | none => none
  | some body =>
    let unsignedName := match s with
      | '-' :: rest => rest
      | _ => body
    if isInfinityName unsignedName || isNanName s then some .null
    else
      match Decimal.readList body with
      | some x => if x.isNaN || x.isInf then none else some (.float x)
      | none => none

def plainValue (text : String) : Option Json :=
  let s := text.toList
  if s.isEmpty || isNullText s then some .null
  else
    match boolText? s with
    | some b => some (.bool b)
    | none =>
      match integerOf s with
      | .fits n => some (.int n)
      | .tooWide => none
      | .other =>
        if isPaddedDigits s then some (.str text)
        else some ((floatOf? s).getD (.str text))

/-- A scalar with a tag: the four tags of values must fit, local tags are
refused, any other tag leaves text. -/
def taggedValue (tag text : String) : Option Json :=
  let s := text.toList
  if tag = Node.coreLead ++ "bool" then (boolText? s).map .bool
  else if tag = Node.coreLead ++ "int" then
    match integerOf s with
    | .fits n => some (.int n)
    | _ => none
  else if tag = Node.coreLead ++ "float" then floatOf? s
  else if tag = Node.coreLead ++ "null" then if isNullText s then some .null else none
  else some (.str text)

def isLocalTag (tag : Option String) : Bool := tag.any fun t => t.toList.head? == some '!'

namespace Node

/-! ## Aliases -/

def isRefusedTag (p : Props) : Bool := isLocalTag p.tag

def anchored (p : Props) (n : Node) : List (Nat × Node) :=
  match p.anchor with
  | some i => [(i, n)]
  | none => []

mutual

def targets : Node → List (Nat × Node)
  | .reference _ => []
  | .scalar p text plain => anchored p (.scalar p text plain)
  | .sequence p items => anchored p (.sequence p items) ++ targetsOfItems items
  | .mapping p entries => anchored p (.mapping p entries) ++ targetsOfEntries entries

def targetsOfItems : List Node → List (Nat × Node)
  | [] => []
  | n :: rest => targets n ++ targetsOfItems rest

def targetsOfEntries : List (Node × Node) → List (Nat × Node)
  | [] => []
  | (k, v) :: rest => targets k ++ targets v ++ targetsOfEntries rest

end

mutual

/-- How many marks a node takes in the sequence of its document: one for an
alias or scalar, two around the parts of any other node. -/
def size : Node → Nat
  | .reference _ => 1
  | .scalar _ _ _ => 1
  | .sequence _ items => 2 + sizeOfItems items
  | .mapping _ entries => 2 + sizeOfEntries entries

def sizeOfItems : List Node → Nat
  | [] => 0
  | n :: rest => size n + sizeOfItems rest

def sizeOfEntries : List (Node × Node) → Nat
  | [] => 0
  | (k, v) :: rest => size k + size v + sizeOfEntries rest

end

/-- Each mark of the document allows this many aliases to be followed. -/
def followsPerMark : Nat := 100

def depthLimit : Nat := 128

/-- Values read while counting the aliases that may still be followed. -/
abbrev Following (α : Type) := StateT Nat Option α

/-- The node itself, or the one an alias names: of two anchors of one number
the later one. -/
def followed (known : List (Nat × Node)) : Node → Following Node
  | .reference n => do
    match ← get with
    | 0 => fun _ => none
    | left + 1 =>
      set left
      match known.reverse.lookup n with
      | some target => return target
      | none => fun _ => none
  | n => return n

def scalarValue (p : Props) (text : String) (plain : Bool) : Option Json :=
  match p.tag with
  | some tag => if isLocalTag p.tag then none else taggedValue tag text
  | none => if plain then plainValue text else some (.str text)

/-- A key is the text of a scalar, whatever it looks like. -/
def keyText (known : List (Nat × Node)) (n : Node) : Following String := do
  match ← followed known n with
  | .scalar _ text _ => return text
  | _ => fun _ => none

def value (known : List (Nat × Node)) (depth : Nat) (n : Node) : Following Json := do
  match ← followed known n with
  | .reference _ => fun _ => none
  | .scalar p text plain => fun left => (scalarValue p text plain).map fun v => (v, left)
  | .sequence p items =>
    match depth with
    | 0 => fun _ => none
    | depth + 1 =>
      if isRefusedTag p then fun _ => none
      else return .arr (← items.mapM (value known depth))
  | .mapping p entries =>
    match depth with
    | 0 => fun _ => none
    | depth + 1 =>
      if isRefusedTag p then fun _ => none
      else
        let members ← entries.mapM fun (k, v) => do
          return (← keyText known k, ← value known depth v)
        return Json.object members
termination_by depth

end Node

/-- The value of a text; null for an empty one, none if it is refused. -/
def readList (cs : List Char) : Option Json := do
  let tokens ← tokens? cs
  match ← Node.ofTokens? tokens with
  | none => some .null
  | some root =>
    let follows := Node.followsPerMark * root.size
    ((root.value root.targets Node.depthLimit).run follows).map Prod.fst

def read (s : String) : Option Json := readList s.toList

end OrgPipeline.Yaml
