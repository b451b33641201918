import OrgPipeline.Text.CaseTable

/-!
# Lower case

Every character becomes its lower-case letter, a capital I with a dot becomes
two characters, and a capital sigma at the end of a word becomes the final
form: a cased letter stands before it and none after it, where characters
that case ignores are passed over on both sides.
-/

set_option autoImplicit false

namespace OrgPipeline.Text

def capitalSigma : Char := Char.ofNat 0x3A3
def smallSigma : Char := Char.ofNat 0x3C3
def finalSigma : Char := Char.ofNat 0x3C2

def isCased (c : Char) : Bool := casedRanges.mem c
def isCaseIgnorable (c : Char) : Bool := caseIgnorableRanges.mem c

def CapitalRun.lower? (run : CapitalRun) (n : Nat) : Option Nat :=
  if run.first ≤ n && n ≤ run.last && (n - run.first) % run.step == 0 then
    some (n - run.first + run.lower)
  else none

def lowerChar (c : Char) : List Char :=
  if c.toNat < 0x80 then [c.toLower]
  else if c.toNat == 0x130 then ['i', Char.ofNat 0x307]
  else [((capitalRuns.findSome? (·.lower? c.toNat)).map Char.ofNat).getD c]

/-- The nearest character that case does not ignore is a cased one. -/
def nextCased : List Char → Bool
  | [] => false
  | c :: cs => if isCaseIgnorable c then nextCased cs else isCased c

/-- Lower case of a text's rest, after the characters before it in reverse. -/
def lowerFrom : List Char → List Char → List Char
  | _, [] => []
  | before, c :: cs =>
    (if c = capitalSigma then
      [if nextCased before && !nextCased cs then finalSigma else smallSigma]
     else lowerChar c) ++ lowerFrom (c :: before) cs

def lowercase (s : String) : String := String.ofList (lowerFrom [] s.toList)

end OrgPipeline.Text
