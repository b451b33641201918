import OrgPipeline.World.Path
import OrgPipeline.Text.Octets

/-!
# Files

A tree of directories and files, given by the place of each entry: the names
from the root down. The root is always there. Operations take a path as text
and the directory where a relative path begins, and fail as the operating
system would; what was done before a failure stays done.
-/

set_option autoImplicit false

namespace OrgPipeline

/-- Names from the root down. -/
abbrev Place := List String

inductive Entry where
  | file (content : Octets)
  | directory
  deriving DecidableEq

inductive OsProblem where
  | notFound
  | present
  | notDirectory
  | isDirectory
  | invalid
  | notText
  | nulInName
  deriving DecidableEq, Repr

def OsProblem.text : OsProblem → String
  | notFound => "No such file or directory (os error 2)"
  | present => "File exists (os error 17)"
  | notDirectory => "Not a directory (os error 20)"
  | isDirectory => "Is a directory (os error 21)"
  | invalid => "Invalid argument (os error 22)"
  | notText => "stream did not contain valid UTF-8"
  | nulInName => "file name contained an unexpected NUL byte"

structure Files where
  entries : List (Place × Entry)

abbrev FileAction (α : Type) := ExceptT OsProblem (StateM Files) α

namespace Files

def empty : Files := ⟨[]⟩

def lookup (place : Place) : List (Place × Entry) → Option Entry
  | [] => none
  | (p, e) :: rest => if p = place then some e else lookup place rest

def get? (f : Files) (place : Place) : Option Entry :=
  if place = [] then some .directory else lookup place f.entries

def erase (f : Files) (place : Place) : Files := ⟨f.entries.filter fun e => e.1 ≠ place⟩

def insert (f : Files) (place : Place) (e : Entry) : Files :=
  ⟨(place, e) :: (f.erase place).entries⟩

def removeBelow (f : Files) (place : Place) : Files :=
  ⟨f.entries.filter fun e => !place.isPrefixOf e.1⟩

/-- Takes away what lies below a place, not the place itself. -/
def clear (f : Files) (place : Place) : Files :=
  ⟨f.entries.filter fun e => e.1 = place ∨ !place.isPrefixOf e.1⟩

/-! ## Where a path leads -/

/-- Follows names from a place on. Every place on the way must be a directory,
the last one only if an empty name or a dot follows it. -/
def follow (f : Files) : Place → List String → Except OsProblem Place
  | place, [] => .ok place
  | place, name :: rest =>
    match f.get? place with
    | none => .error .notFound
    | some (.file _) => .error .notDirectory
    | some .directory =>
      if name = "" ∨ name = "." then follow f place rest
      else if name = ".." then follow f place.dropLast rest
      else
        match f.get? (place ++ [name]) with
        | none => .error .notFound
        | some _ => follow f (place ++ [name]) rest

def hasNul (path : String) : Bool := path.toList.contains '\x00'

def startOf (here : Place) (path : String) : Place := if Path.isAbsolute path then [] else here

def resolve (f : Files) (here : Place) (path : String) : Except OsProblem Place :=
  if hasNul path then .error .nulInName
  else if path = "" then .error .notFound
  else f.follow (startOf here path) (Text.split '/' path)

def find? (f : Files) (here : Place) (path : String) : Option Entry :=
  match f.resolve here path with
  | .ok place => f.get? place
  | .error _ => none

def exists? (f : Files) (here : Place) (path : String) : Bool := (f.find? here path).isSome

def isFile (f : Files) (here : Place) (path : String) : Bool :=
  match f.find? here path with
  | some (.file _) => true
  | _ => false

def isDirectory (f : Files) (here : Place) (path : String) : Bool :=
  match f.find? here path with
  | some .directory => true
  | _ => false

/-- The last name of a path with the names before it, and whether slashes
follow it. A path of slashes only has no last name. -/
def splitLast (path : String) : List String × Option String × Bool :=
  let names := Text.split '/' path
  let bare := (names.reverse.dropWhile (· = "")).reverse
  (bare.dropLast, bare.getLast?, bare.length < names.length)

def directoryOf (f : Files) (here : Place) (path : String) : Except OsProblem Place :=
  if hasNul path then .error .nulInName
  else if path = "" then .error .notFound
  else
    match f.follow (startOf here path) (splitLast path).1 with
    | .error e => .error e
    | .ok place =>
      match f.get? place with
      | some .directory => .ok place
      | some (.file _) => .error .notDirectory
      | none => .error .notFound

/-- A last name that names nothing of its own. -/
def isSpecial (name : Option String) : Bool :=
  match name with
  | none => true
  | some n => n = "." || n = ".."

/-! ## Operations -/

def fail {α : Type} (e : OsProblem) : FileAction α := throw e

def read (here : Place) (path : String) : FileAction String := do
  let f ← get
  match f.resolve here path with
  | .error e => fail e
  | .ok place =>
    match f.get? place with
    | none => fail .notFound
    | some .directory => fail .isDirectory
    | some (.file content) =>
      match Octets.text? content with
      | some text => return text
      | none => fail .notText

def write (here : Place) (path : String) (content : Octets) : FileAction Unit := do
  let f ← get
  match f.directoryOf here path with
  | .error e => fail e
  | .ok dir =>
    match (splitLast path).2 with
    | (some name, false) =>
      if isSpecial (some name) then fail .isDirectory
      else
        match f.get? (dir ++ [name]) with
        | some .directory => fail .isDirectory
        | _ => set (f.insert (dir ++ [name]) (.file content))
    | _ => fail .isDirectory

def makeDirectory (here : Place) (path : String) : FileAction Unit := do
  let f ← get
  match f.directoryOf here path with
  | .error e => fail e
  | .ok dir =>
    match (splitLast path).2.1 with
    | none => fail .present
    | some name =>
      if isSpecial (some name) then fail .present
      else
        match f.get? (dir ++ [name]) with
        | some _ => fail .present
        | none => set (f.insert (dir ++ [name]) .directory)

/-- Makes a directory with those above it, as far as they are missing. The
bound is the number of names in the path. -/
def makeDirectories (here : Place) : Nat → String → FileAction Unit
  | 0, _ => return ()
  | fuel + 1, path => do
    if path = "" then return ()
    let attempt (path : String) (onMissing : FileAction Unit) : FileAction Unit :=
      tryCatch (makeDirectory here path) fun e => do
        if e = .notFound then onMissing
        else if (← get).isDirectory here path then return ()
        else throw e
    attempt path do
      match Path.parent? path with
      | some parent => makeDirectories here fuel parent
      | none => return ()
      attempt path (throw .notFound)

def makeAll (here : Place) (path : String) : FileAction Unit :=
  makeDirectories here ((Path.components path).length + 1) path

def remove (here : Place) (path : String) : FileAction Unit := do
  let f ← get
  match f.resolve here path with
  | .error e => fail e
  | .ok place =>
    match f.get? place with
    | none => fail .notFound
    | some .directory => fail .isDirectory
    | some (.file _) => set (f.erase place)

/-- Removes a directory with all that is in it. Named by a dot it is emptied
but stays; named from below it is gone before it can be removed by that name. -/
def removeTree (here : Place) (path : String) : FileAction Unit := do
  let f ← get
  match f.resolve here path with
  | .error e => fail e
  | .ok place =>
    match f.get? place with
    | none => fail .notFound
    | some (.file _) => fail .notDirectory
    | some .directory =>
      match (splitLast path).2.1 with
      | some ".." => set (f.clear place)
      | some "." =>
        set (f.clear place)
        fail .invalid
      | _ => set (f.removeBelow place)

/-! ## Looking up after a change -/

theorem lookup_filter_ne (place q : Place) (es : List (Place × Entry)) :
    lookup q (es.filter fun e => e.1 ≠ place) = if q = place then none else lookup q es := by
  induction es with
  | nil => simp [lookup]
  | cons e es ih =>
    obtain ⟨p, v⟩ := e
    by_cases hp : p = place
    · rw [List.filter_cons_of_neg (by simpa using hp), ih]
      by_cases hq : q = place
      · simp [hq]
      · simp [hq, lookup, hp, Ne.symm hq]
    · rw [List.filter_cons_of_pos (by simpa using hp), lookup, lookup, ih]
      by_cases hq : p = q
      · simp [← hq, hp]
      · simp [hq]

theorem get?_insert (f : Files) (place q : Place) (e : Entry) (h : place ≠ []) :
    (f.insert place e).get? q = if q = place then some e else f.get? q := by
  by_cases hq : q = []
  · subst hq; simp [get?, Ne.symm h]
  · simp only [get?, hq, if_false, insert, lookup, erase, lookup_filter_ne]
    by_cases hp : place = q
    · simp [hp]
    · simp [hp, Ne.symm hp]

end Files
end OrgPipeline
