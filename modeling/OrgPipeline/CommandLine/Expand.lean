import OrgPipeline.Environment
import OrgPipeline.Text.Split
import OrgPipeline.Text.WordChar

/-!
# Expanding paths

A path given on the command line may name variables of the environment and
begin with a tilde for the home directory. Two dollar signs stand for one. If a
variable is neither set nor given a default, the path stays as it was typed.
-/

set_option autoImplicit false

namespace OrgPipeline.PathTemplate

inductive Piece where
  | literal (text : List Char)
  | variable (name : List Char) (default : Option (List Char))
  deriving DecidableEq, Repr

def isNameChar (c : Char) : Bool := Text.isWordChar c || c == '_'

/-- Cuts at the first place where a colon and a dash follow each other. -/
def splitDefault : List Char → Option (List Char × List Char)
  | [] => none
  | c :: cs =>
    match Text.afterList [':', '-'] (c :: cs) with
    | some rest => some ([], rest)
    | none => (splitDefault cs).map fun (name, rest) => (c :: name, rest)

/-- What stands between braces: a name, and a default if a name precedes it. -/
def ofBraces (inner : List Char) : Piece :=
  match splitDefault inner with
  | some (c :: name, default) => .variable (c :: name) (some default)
  | _ => .variable inner none

theorem splitOnceList_shorter {sep : Char} {cs a b : List Char}
    (h : Text.splitOnceList sep cs = some (a, b)) : b.length < cs.length := by
  induction cs generalizing a b with
  | nil => simp [Text.splitOnceList] at h
  | cons c cs ih =>
    rw [Text.splitOnceList] at h
    split at h
    · simp only [Option.some.injEq, Prod.mk.injEq] at h
      simp [← h.2]
    · obtain ⟨p, hp, he⟩ := Option.map_eq_some_iff.1 h
      simp only [Prod.mk.injEq] at he
      have := ih (a := p.1) (b := p.2) hp
      simp only [List.length_cons, ← he.2]
      omega

def pieces : List Char → List Piece
  | [] => []
  | '$' :: '$' :: rest => .literal ['$'] :: pieces rest
  | '$' :: '\x7b' :: rest =>
    match _h : Text.splitOnceList '\x7d' rest with
    | some (inner, after) => ofBraces inner :: pieces after
    | none => .literal ['$', '\x7b'] :: pieces rest
  | '$' :: rest =>
    if (rest.takeWhile isNameChar).isEmpty then .literal ['$'] :: pieces rest
    else .variable (rest.takeWhile isNameChar) none :: pieces (rest.dropWhile isNameChar)
  | c :: rest => .literal [c] :: pieces rest
termination_by cs => cs.length
decreasing_by
  all_goals simp only [List.length_cons]
  · omega
  · have := splitOnceList_shorter _h; omega
  · omega
  · omega
  · have : (rest.dropWhile isNameChar).length ≤ rest.length :=
      (List.dropWhile_sublist _).length_le
    omega
  · omega

/-- The text of a piece. A variable that is set counts even if it is empty. -/
def fill (env : Environment) : Piece → Option (List Char)
  | .literal text => some text
  | .variable name default => ((env (String.ofList name)).map String.toList) <|> default

/-- Puts the home directory in the place of a tilde that stands alone or before
a slash. -/
def expandHome (env : Environment) (cs : List Char) : List Char :=
  match cs with
  | '~' :: rest =>
    if rest.head?.all (· == '/') then
      match (env "HOME").filter (· ≠ "") with
      | some home => home.toList ++ rest
      | none => cs
    else cs
  | cs => cs

/-- The path that is meant. A tilde that a variable brings in is no home. -/
def expandList (env : Environment) (raw : List Char) : List Char :=
  match (pieces raw).mapM (fill env) with
  | none => raw
  | some texts =>
    if raw.head? = some '~' then expandHome env texts.flatten else texts.flatten

def expand (env : Environment) (raw : String) : String :=
  String.ofList (expandList env raw.toList)

end OrgPipeline.PathTemplate
