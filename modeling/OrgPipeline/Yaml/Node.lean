import OrgPipeline.Yaml.Token

/-!
# Nodes of a YAML document

A document is a tree of scalars, sequences, mappings and aliases. It is read
from the tokens of the text; an alias must name an anchor that came before it.
An anchor is numbered by the count of the names known when it comes.
-/

set_option autoImplicit false

namespace OrgPipeline.Yaml

/-- What stands before a node: the number of its anchor, and its tag. -/
structure Props where
  anchor : Option Nat
  tag : Option String

inductive Node where
  | reference (number : Nat)
  | scalar (props : Props) (text : String) (plain : Bool)
  | sequence (props : Props) (items : List Node)
  | mapping (props : Props) (entries : List (Node × Node))

namespace Node

def noProps : Props := ⟨none, none⟩

def missing : Node := .scalar noProps "" true

/-- What the reader knows: the tokens left, the tag handles of the document
and the numbers of its anchors. -/
structure Reading where
  tokens : List Token
  handles : List (String × String)
  anchors : List (String × Nat)

abbrev Reader (α : Type) := StateT Reading Option α

def refuse {α : Type} : Reader α := fun _ => none

def peek? : Reader (Option Token) := return (← get).tokens.head?

def drop : Reader Unit := modify fun r => { r with tokens := r.tokens.tail }

def next? (p : Token → Bool) : Reader Bool := return (← peek?).any p

/-! ## Properties -/

def fullTag (handle suffix : String) : Reader String := do
  if handle = "" then return suffix
  match (← get).handles.lookup handle with
  | some lead => return lead ++ suffix
  | none => refuse

def numberAnchor (name : String) : Reader Nat := do
  let r ← get
  let n := r.anchors.length
  let anchors :=
    if (r.anchors.lookup name).isSome then
      r.anchors.map fun (k, i) => if k = name then (k, n) else (k, i)
    else (name, n) :: r.anchors
  set { r with anchors := anchors }
  return n

/-- An anchor and a tag in either order, each at most once. -/
def props : Reader (Option Props) := do
  match ← peek? with
  | some (.anchor name) =>
    drop
    match ← peek? with
    | some (.tag handle suffix) =>
      drop
      let tag ← fullTag handle suffix
      return some ⟨some (← numberAnchor name), some tag⟩
    | _ => return some ⟨some (← numberAnchor name), none⟩
  | some (.tag handle suffix) =>
    drop
    match ← peek? with
    | some (.anchor name) =>
      drop
      let tag ← fullTag handle suffix
      return some ⟨some (← numberAnchor name), some tag⟩
    | _ => return some ⟨none, some (← fullTag handle suffix)⟩
  | _ => return none

/-! ## What ends an empty place -/

def isBlockEntry : Token → Bool
  | .blockEntry => true
  | _ => false

def isBlockEnd : Token → Bool
  | .blockEnd => true
  | _ => false

def isKey : Token → Bool
  | .key => true
  | _ => false

def isValue : Token → Bool
  | .value => true
  | _ => false

def isFlowEntry : Token → Bool
  | .flowEntry => true
  | _ => false

def isSequenceEnd : Token → Bool
  | .flowSequenceEnd => true
  | _ => false

def isMappingEnd : Token → Bool
  | .flowMappingEnd => true
  | _ => false

def endsKey (t : Token) : Bool := isKey t || isValue t || isBlockEnd t

/-- The sign of a tag alone on a scalar counts for nothing. -/
def scalarNode (p : Props) (text : String) (plain : Bool) : Node :=
  if p.tag = some "!" then .scalar { p with tag := none } text plain else .scalar p text plain

mutual

/-- A node; in a block position it may be a block, and after a key or a colon
also a sequence without indentation of its own. -/
def read (block indentless : Bool) : Nat → Reader Node
  | 0 => refuse
  | fuel + 1 => do
    match ← peek? with
    | some (.reference name) =>
      drop
      match (← get).anchors.lookup name with
      | some n => return .reference n
      | none => refuse
    | _ =>
      let found ← props
      let p := found.getD noProps
      match ← peek? with
      | some (.scalar text plain) =>
        drop
        return scalarNode p text plain
      | some .flowSequence =>
        drop
        return .sequence p (← flowItems true fuel)
      | some .flowMapping =>
        drop
        return .mapping p (← flowPairs true fuel)
      | t =>
        if indentless && t.any isBlockEntry then
          return .sequence p (← indentlessItems fuel)
        else if block then
          match t with
          | some .blockSequence =>
            drop
            return .sequence p (← blockItems fuel)
          | some .blockMapping =>
            drop
            return .mapping p (← blockPairs fuel)
          | _ => if found.isSome then return .scalar p "" true else refuse
        else if found.isSome then return .scalar p "" true
        else refuse

def blockItems : Nat → Reader (List Node)
  | 0 => refuse
  | fuel + 1 => do
    if ← next? isBlockEntry then
      drop
      let item ← if ← next? (fun t => isBlockEntry t || isBlockEnd t) then pure missing
        else read true false fuel
      return item :: (← blockItems fuel)
    else if ← next? isBlockEnd then
      drop
      return []
    else refuse

/-- The entries of a sequence that stands at the indentation of its mapping. -/
def indentlessItems : Nat → Reader (List Node)
  | 0 => refuse
  | fuel + 1 => do
    if ← next? isBlockEntry then
      drop
      let item ← if ← next? (fun t => isBlockEntry t || endsKey t) then pure missing
        else read true false fuel
      return item :: (← indentlessItems fuel)
    else return []

def blockPairs : Nat → Reader (List (Node × Node))
  | 0 => refuse
  | fuel + 1 => do
    if ← next? isKey then
      drop
      let k ← if ← next? endsKey then pure missing else read true true fuel
      let v ← blockValue fuel
      return (k, v) :: (← blockPairs fuel)
    else if ← next? isBlockEnd then
      drop
      return []
    else refuse

def blockValue : Nat → Reader Node
  | 0 => refuse
  | fuel + 1 => do
    if ← next? isValue then
      drop
      if ← next? endsKey then return missing else read true true fuel
    else return missing

/-- The entries of a bracketed sequence. An entry may be a single pair. -/
def flowItems (first : Bool) : Nat → Reader (List Node)
  | 0 => refuse
  | fuel + 1 => do
    if ← next? isSequenceEnd then
      drop
      return []
    else
      if !first then
        if ← next? isFlowEntry then drop else refuse
      if ← next? isKey then
        drop
        let pair ← flowItemPair fuel
        return .mapping noProps [pair] :: (← flowItems false fuel)
      else if ← next? isSequenceEnd then
        drop
        return []
      else
        let item ← read false false fuel
        return item :: (← flowItems false fuel)

/-- A pair inside a bracketed sequence, after the mark of its key. Where the key
is missing, the token that shows it is passed over. -/
def flowItemPair : Nat → Reader (Node × Node)
  | 0 => refuse
  | fuel + 1 => do
    let ends (t : Token) : Bool := isFlowEntry t || isSequenceEnd t
    let k ← if ← next? (fun t => isValue t || ends t) then
        drop
        pure missing
      else read false false fuel
    if ← next? isValue then
      drop
      if ← next? ends then return (k, missing)
      else return (k, ← read false false fuel)
    else return (k, missing)

def flowPairs (first : Bool) : Nat → Reader (List (Node × Node))
  | 0 => refuse
  | fuel + 1 => do
    if ← next? isMappingEnd then
      drop
      return []
    else
      if !first then
        if ← next? isFlowEntry then drop else refuse
      let ends (t : Token) : Bool := isFlowEntry t || isMappingEnd t
      if ← next? isKey then
        drop
        let k ← if ← next? (fun t => isValue t || ends t) then pure missing
          else read false false fuel
        let v ← if ← next? isValue then
            drop
            if ← next? ends then pure missing else read false false fuel
          else pure missing
        return (k, v) :: (← flowPairs false fuel)
      else if ← next? isMappingEnd then
        drop
        return []
      else
        let k ← read false false fuel
        return (k, missing) :: (← flowPairs false fuel)

end

/-! ## Documents -/

def coreLead : String := "tag:yaml.org,2002:"

def defaultHandles : List (String × String) := [("!", "!"), ("!!", coreLead)]

def isDocumentEnd : Token → Bool
  | .documentEnd => true
  | _ => false

/-- The directives before a document; each may be given once. -/
def directives : Nat → Bool → Reader Unit
  | 0, _ => refuse
  | fuel + 1, versioned => do
    match ← peek? with
    | some (.version major minor) =>
      if versioned || major != 1 || (minor != 1 && minor != 2) then refuse
      else
        drop
        directives fuel true
    | some (.tagDirective handle lead) =>
      let r ← get
      if (r.handles.lookup handle).isSome then refuse
      else
        set { r with handles := r.handles ++ [(handle, lead)] }
        drop
        directives fuel versioned
    | _ => return ()

def dropDocumentEnds : Nat → Reader Unit
  | 0 => return ()
  | fuel + 1 => do
    if ← next? isDocumentEnd then
      drop
      dropDocumentEnds fuel

def endsContent : Token → Bool
  | .version _ _ | .tagDirective _ _ | .documentStart | .documentEnd => true
  | _ => false

def isDirective : Token → Bool
  | .version _ _ | .tagDirective _ _ | .documentStart => true
  | _ => false

/-- The only document of a stream; none if the stream is empty. -/
def document (fuel : Nat) : Reader (Option Node) := do
  if (← peek?).isNone then return none
  let root ←
    if ← next? isDirective then
      directives fuel false
      match ← peek? with
      | some .documentStart =>
        drop
        modify fun r => { r with handles := r.handles ++ defaultHandles }
        if (← peek?).all endsContent then pure missing else read true false fuel
      | _ => refuse
    else
      modify fun r => { r with handles := defaultHandles }
      read true false fuel
  dropDocumentEnds fuel
  if (← peek?).isNone then return some root else refuse

/-- The document that tokens form: `some none` for an empty stream. -/
def ofTokens? (tokens : List Token) : Option (Option Node) :=
  ((document (4 * tokens.length + 4)).run ⟨tokens, [], []⟩).map Prod.fst

end Node
end OrgPipeline.Yaml
