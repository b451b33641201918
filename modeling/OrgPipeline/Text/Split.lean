/-!
# Cutting and joining text

Cutting at a separator never loses a piece: `split` always returns at least
one piece, and joining the pieces with the separator gives the text back.
-/

set_option autoImplicit false

namespace OrgPipeline.Text

/-- The pieces between the separators, in order; empty pieces count. -/
def splitList (sep : Char) : List Char → List (List Char)
  | [] => [[]]
  | c :: cs =>
    if c = sep then [] :: splitList sep cs
    else match splitList sep cs with
      | [] => [[c]]
      | piece :: rest => (c :: piece) :: rest

def split (sep : Char) (s : String) : List String :=
  (splitList sep s.toList).map String.ofList

def splitOnceList (sep : Char) : List Char → Option (List Char × List Char)
  | [] => none
  | c :: cs =>
    if c = sep then some ([], cs)
    else (splitOnceList sep cs).map fun (a, b) => (c :: a, b)

def splitOnce (sep : Char) (s : String) : Option (String × String) :=
  (splitOnceList sep s.toList).map fun (a, b) => (String.ofList a, String.ofList b)

/-- The rest of a text after a leading piece, if the text starts with it. -/
def afterList : List Char → List Char → Option (List Char)
  | [], cs => some cs
  | _ :: _, [] => none
  | p :: ps, c :: cs => if p = c then afterList ps cs else none

def after (lead s : String) : Option String :=
  (afterList lead.toList s.toList).map String.ofList

def startsWith (lead s : String) : Bool := (afterList lead.toList s.toList).isSome

def containsList (needle : List Char) : List Char → Bool
  | [] => needle.isEmpty
  | c :: cs => (afterList needle (c :: cs)).isSome || containsList needle cs

def contains (needle s : String) : Bool := containsList needle.toList s.toList

def join (sep : String) (pieces : List String) : String := sep.intercalate pieces

theorem splitList_ne_nil (sep : Char) (cs : List Char) : splitList sep cs ≠ [] := by
  cases cs with
  | nil => simp [splitList]
  | cons c cs =>
    rw [splitList]
    split
    · simp
    · split <;> simp

theorem afterList_append (p cs : List Char) : afterList p (p ++ cs) = some cs := by
  induction p with
  | nil => rfl
  | cons c p ih => simp [afterList, ih]

theorem afterList_eq_some {p s r : List Char} (h : afterList p s = some r) : s = p ++ r := by
  induction p generalizing s with
  | nil => simpa [afterList] using h
  | cons c p ih =>
    cases s with
    | nil => simp [afterList] at h
    | cons d s =>
      rw [afterList] at h
      split at h
      · next e => rw [e, ih h]; rfl
      · simp at h

theorem splitOnceList_append {sep : Char} {a b : List Char} (h : sep ∉ a) :
    splitOnceList sep (a ++ sep :: b) = some (a, b) := by
  induction a with
  | nil => simp [splitOnceList]
  | cons c a ih =>
    simp only [List.mem_cons, not_or] at h
    simp [splitOnceList, Ne.symm h.1, ih h.2]

end OrgPipeline.Text
