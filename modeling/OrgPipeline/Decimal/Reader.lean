import OrgPipeline.Decimal.Binary
import OrgPipeline.Text.Split

/-!
# Reading numbers from text

A number is an optional sign and either a name (`inf`, `infinity`, `nan`, in
any case) or digits with an optional point among them and an optional decimal
exponent; at least one digit stands before the exponent. The value is the
number nearest to the decimal.
-/

set_option autoImplicit false

namespace OrgPipeline.Decimal

def isDigit (c : Char) : Bool := '0' ≤ c && c ≤ '9'

def digitValue (c : Char) : Nat := c.toNat - '0'.toNat

def valueOf (digits : List Char) : Nat := digits.foldl (fun n c => n * 10 + digitValue c) 0

/-- Sign, digits and decimal exponent of a number: the parts of its grammar. -/
structure Parts where
  whole : List Char
  fraction : List Char
  exponent : Int

def exponentPart : List Char → Option Int
  | [] => some 0
  | c :: cs =>
    if c = 'e' ∨ c = 'E' then
      let (negative, digits) := match cs with
        | '-' :: rest => (true, rest)
        | '+' :: rest => (false, rest)
        | rest => (false, rest)
      if digits.isEmpty || !digits.all isDigit then none
      else
        let n : Int := valueOf digits
        some (if negative then -n else n)
    else none

def parts? (cs : List Char) : Option Parts :=
  let whole := cs.takeWhile isDigit
  let rest := cs.dropWhile isDigit
  let (fraction, rest) := match rest with
    | '.' :: rest => (rest.takeWhile isDigit, rest.dropWhile isDigit)
    | rest => ([], rest)
  if whole.isEmpty && fraction.isEmpty then none
  else (exponentPart rest).map fun e => ⟨whole, fraction, e⟩

/-- Beyond this many places every decimal is zero or infinite. -/
def farPlaces : Int := 400

/-- The number nearest to `coefficient * 10 ^ exponent`. -/
def nearestDecimal (negative : Bool) (coefficient : Nat) (exponent : Int) : Float :=
  let places : Int := (Nat.toDigits 10 coefficient).length + exponent
  if coefficient = 0 ∨ places < -farPlaces then signed negative 0
  else if farPlaces < places then signed negative infinityBits
  else nearest negative (coefficient * tenTo exponent.toNat) (tenTo (-exponent).toNat)

def Parts.value (negative : Bool) (p : Parts) : Float :=
  nearestDecimal negative (valueOf (p.whole ++ p.fraction)) (p.exponent - p.fraction.length)

def notANumber : Float := Float.ofBits 0x7FF8000000000000

def named? (negative : Bool) (cs : List Char) : Option Float :=
  let name := String.ofList (cs.map Char.toLower)
  if name = "inf" ∨ name = "infinity" then some (signed negative infinityBits)
  else if name = "nan" then some notANumber
  else none

def unsigned? (negative : Bool) (cs : List Char) : Option Float :=
  match parts? cs with
  | some p => some (p.value negative)
  | none => named? negative cs

def readList (cs : List Char) : Option Float :=
  match cs with
  | '-' :: rest => unsigned? true rest
  | '+' :: rest => unsigned? false rest
  | rest => unsigned? false rest

def read (s : String) : Option Float := readList s.toList

end OrgPipeline.Decimal
