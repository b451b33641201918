import OrgPipeline.Table
import OrgPipeline.Text.Split
import OrgPipeline.ChangeSet.Mode

/-!
# Arguments

The words after the name of the program choose a command and give its
arguments. Each level of commands has options of its own; one option is known at
every level. An option that takes a value waits for the next word, and a word is
taken as its value even if it names a command. The problems of a command come
before those of the levels above it.
-/

set_option autoImplicit false

namespace OrgPipeline.CommandLine

/-- Why words are not understood, or ask for something other than a command. -/
inductive UsageProblem where
  | helpRequested
  | versionRequested
  | nothingGiven
  | missingCommand
  | unknownCommand
  | unknownArgument
  | missingArgument
  | missingValue
  | strayValue
  | refusedValue
  | repeated
  deriving DecidableEq, Repr

/-- A request for information is no failure. -/
def UsageProblem.exitCode : UsageProblem → Nat
  | helpRequested | versionRequested => 0
  | _ => 2

abbrev Parsed (α : Type) := Except UsageProblem α

inductive OptionKind where
  | switch
  | single (accepts : String → Bool)
  | repeatable

structure OptionRule where
  name : String
  kind : OptionKind
  required : Bool

/-- What may follow at one level. -/
structure Grammar where
  options : List OptionRule
  /-- One word is taken as it is, and is required. -/
  hasWord : Bool
  hasVersion : Bool
  commands : List (String × List String)

/-- The words given to one level so far. -/
structure Reading where
  values : Table (List String)
  word : Option String
  /-- An option under way, with its value once that has come. -/
  pending : Option (OptionRule × Option String)
  /-- After two dashes no word is an option. -/
  wordsOnly : Bool

namespace Reading

def empty : Reading := ⟨.empty, none, none, false⟩

def valuesOf (r : Reading) (name : String) : List String := (r.values.get? name).getD []

def value? (r : Reading) (name : String) : Option String := (r.valuesOf name).head?

def isGiven (r : Reading) (name : String) : Bool := r.values.contains name

def put (r : Reading) (o : OptionRule) (value : String) : Parsed Reading :=
  let add : Parsed Reading :=
    .ok { r with values := r.values.insert o.name (r.valuesOf o.name ++ [value]) }
  match o.kind with
  | .switch => if r.isGiven o.name then .error .repeated else add
  | .single accepts =>
    if r.isGiven o.name then .error .repeated
    else if accepts value then add
    else .error .refusedValue
  | .repeatable => add

def settle (r : Reading) : Parsed Reading :=
  match r.pending with
  | none => .ok r
  | some (_, none) => .error .missingValue
  | some (o, some value) => { r with pending := none }.put o value

def awaits (r : Reading) : Option OptionRule :=
  match r.pending with
  | some (o, none) => some o
  | _ => none

end Reading

namespace Grammar

def helpCommand : String := "help"

def find? (g : Grammar) (name : String) : Option OptionRule :=
  g.options.find? (·.name = name)

def isCommand (g : Grammar) (word : String) : Bool :=
  !g.commands.isEmpty && (word = helpCommand || (g.commands.lookup word).isSome)

/-- The words after a request for help lead to a command. -/
def leads (g : Grammar) : List String → Bool
  | [] => true
  | [a] => g.isCommand a
  | [a, b] =>
    match g.commands.lookup a with
    | some below => !below.isEmpty && (b = helpCommand || below.contains b)
    | none => false
  | _ => false

/-- A word of the form `--name` or `--name=value`. -/
def longOption (g : Grammar) (r : Reading) (body : String) : Parsed Reading :=
  let (name, value) := match Text.splitOnce '=' body with
    | some (name, value) => (name, some value)
    | none => (body, none)
  if name = "help" ∨ (g.hasVersion ∧ name = "version") then
    if value.isSome then .error .strayValue
    else do
      let _ ← r.settle
      .error (if name = "help" then .helpRequested else .versionRequested)
  else
    match g.find? name, value with
    | none, _ => .error .unknownArgument
    | some o, value =>
      match o.kind, value with
      | .switch, some _ => .error .strayValue
      | .switch, none => do (← r.settle).put o "true"
      | _, some v => do (← r.settle).put o v
      | _, none => do return { ← r.settle with pending := some (o, none) }

def shortOptions (g : Grammar) (r : Reading) (letters : List Char) : Parsed Reading :=
  match letters with
  | 'h' :: _ => do
    let _ ← r.settle
    .error .helpRequested
  | 'V' :: _ =>
    if g.hasVersion then do
      let _ ← r.settle
      .error .versionRequested
    else .error .unknownArgument
  | _ => .error .unknownArgument

def plainWord (g : Grammar) (r : Reading) (word : String) : Parsed Reading :=
  if g.hasWord ∧ r.word.isNone then do return { ← r.settle with word := some word }
  else if r.wordsOnly ∧ g.isCommand word then .error .unknownArgument
  else if g.commands.isEmpty then .error .unknownArgument
  else .error .unknownCommand

def anyWord (g : Grammar) (r : Reading) (word : String) : Parsed Reading :=
  match word.toList with
  | ['-', '-'] => .ok { r with wordsOnly := true }
  | '-' :: '-' :: body => g.longOption r (String.ofList body)
  | '-' :: c :: letters => g.shortOptions r (c :: letters)
  | _ =>
    match r.awaits with
    | some o => .ok { r with pending := some (o, some word) }
    | none => g.plainWord r word

/-- Reads words until a command is named; that command, and the words left. -/
def scan (g : Grammar) : Reading → List String → Parsed (Reading × Option (String × List String))
  | r, [] => .ok (r, none)
  | r, word :: rest =>
    if r.wordsOnly then do
      g.scan (← g.plainWord r word) rest
    else if r.awaits.isNone ∧ g.isCommand word then
      if word = helpCommand then
        .error (if g.leads rest then .helpRequested else .unknownCommand)
      else .ok (r, some (word, rest))
    else do
      g.scan (← g.anyWord r word) rest

def isComplete (g : Grammar) (r : Reading) : Bool :=
  (!g.hasWord || r.word.isSome) && g.options.all fun o => !o.required || r.isGiven o.name

def finish (g : Grammar) (r : Reading) : Parsed Reading := do
  let r ← r.settle
  if g.isComplete r then return r else .error .missingArgument

def read (g : Grammar) (words : List String) : Parsed Reading := do
  let (r, _) ← g.scan .empty words
  g.finish r

/-- The words of a level that takes a command, which reads the words after it.
Its problems come first. -/
def readCommand {α : Type} (g : Grammar) (words : List String)
    (command : String → List String → Parsed α) : Parsed (Reading × α) := do
  let (r, chosen) ← g.scan .empty words
  match chosen with
  | some (name, rest) =>
    let a ← command name rest
    return (← r.settle, a)
  | none =>
    let r ← r.settle
    .error (if r.values.isEmpty then .nothingGiven else .missingCommand)

end Grammar

/-! ## The commands -/

inductive Command where
  | run (config : String) (pairs : List String) (inputs : Option String) (allowUnknown : Bool)
  | validate (config : String) (allowUnknown : Bool)
  | diff (revert deploy : String) (outDir : Option String) (mode revertMode : DestructiveMode)
  | create (head base dir : String) (mode : DestructiveMode) (createRevert : Bool)
      (revertMode : DestructiveMode) (revertDir : Option String)
  deriving DecidableEq, Repr

structure Invocation where
  bin : Option String
  command : Command
  deriving DecidableEq, Repr

def anyText (_ : String) : Bool := true

def isMode (s : String) : Bool := (DestructiveMode.read s).toBool

def binOption : OptionRule := ⟨"sfdx-bin", .single anyText, false⟩

def commandGrammar (hasWord : Bool) (options : List OptionRule) : Grammar :=
  ⟨binOption :: options, hasWord, false, []⟩

def runGrammar : Grammar :=
  commandGrammar true [⟨"input", .repeatable, false⟩, ⟨"inputs", .single anyText, false⟩,
    ⟨"allow-unknown-steps", .switch, false⟩]

def validateGrammar : Grammar := commandGrammar true [⟨"allow-unknown-steps", .switch, false⟩]

def diffGrammar : Grammar :=
  commandGrammar false [⟨"revert", .single anyText, true⟩, ⟨"deploy", .single anyText, true⟩,
    ⟨"out-dir", .single anyText, false⟩, ⟨"mode", .single isMode, false⟩,
    ⟨"revert-mode", .single isMode, false⟩]

def createGrammar : Grammar :=
  commandGrammar false [⟨"head", .single anyText, true⟩, ⟨"base", .single anyText, true⟩,
    ⟨"dir", .single anyText, false⟩, ⟨"mode", .single isMode, false⟩,
    ⟨"create-revert", .switch, false⟩, ⟨"revert-mode", .single isMode, false⟩,
    ⟨"revert-dir", .single anyText, false⟩]

def changeSetCommands : List String := ["diff", "create"]

def changeSetGrammar : Grammar :=
  ⟨[binOption], false, false, changeSetCommands.map fun name => (name, [])⟩

def rootGrammar : Grammar :=
  ⟨[binOption], false, true,
    [("run", []), ("validate", []), ("changeset", changeSetCommands)]⟩

namespace Reading

/-- The tool named at a level, unless one is named further down. -/
def binOr (r : Reading) (below : Option String) : Option String :=
  below <|> r.value? binOption.name

def modeOf (r : Reading) (name : String) : DestructiveMode :=
  ((r.value? name).bind fun s => (DestructiveMode.read s).toOption).getD .post

def text (r : Reading) (name : String) (default : String) : String :=
  (r.value? name).getD default

end Reading

def defaultDir : String := "changeSet"

def ofRun (r : Reading) : Command :=
  .run (r.word.getD "") (r.valuesOf "input") (r.value? "inputs") (r.isGiven "allow-unknown-steps")

def ofValidate (r : Reading) : Command :=
  .validate (r.word.getD "") (r.isGiven "allow-unknown-steps")

def ofDiff (r : Reading) : Command :=
  .diff (r.text "revert" "") (r.text "deploy" "") (r.value? "out-dir") (r.modeOf "mode")
    (r.modeOf "revert-mode")

def ofCreate (r : Reading) : Command :=
  .create (r.text "head" "") (r.text "base" "") (r.text "dir" defaultDir) (r.modeOf "mode")
    (r.isGiven "create-revert") (r.modeOf "revert-mode") (r.value? "revert-dir")

def leaf (g : Grammar) (command : Reading → Command) (words : List String) : Parsed Invocation := do
  let r ← g.read words
  return ⟨r.binOr none, command r⟩

def nested (g : Grammar) (words : List String)
    (command : String → List String → Parsed Invocation) :
    Parsed Invocation := do
  let (r, below) ← g.readCommand words command
  return { below with bin := r.binOr below.bin }

def changeSetCommand (name : String) (words : List String) : Parsed Invocation :=
  if name = "diff" then leaf diffGrammar ofDiff words else leaf createGrammar ofCreate words

def rootCommand (name : String) (words : List String) : Parsed Invocation :=
  if name = "run" then leaf runGrammar ofRun words
  else if name = "validate" then leaf validateGrammar ofValidate words
  else nested changeSetGrammar words changeSetCommand

def Invocation.parse (words : List String) : Parsed Invocation :=
  nested rootGrammar words rootCommand

end OrgPipeline.CommandLine
