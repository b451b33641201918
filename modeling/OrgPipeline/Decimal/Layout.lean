import OrgPipeline.Decimal.Shortest

/-!
# How a number is written

The digits of a number are its shortest ones; where the point goes, whether a
whole number shows a fraction and how zero looks are decided once for each
format, by a `Layout`.
-/

set_option autoImplicit false

namespace OrgPipeline.Decimal

structure Layout where
  /-- Places before the point for which digits are written positionally. -/
  positional : Int → Bool
  /-- A whole number is written with one zero after the point. -/
  fraction : Bool
  /-- Of two shortest decimals equally near the larger one is taken. -/
  upOnTie : Bool

/-- Numbers in JSON text: a fraction or an exponent is always shown, and
sixteen places before or four zeros after the point are still positional. -/
def jsonLayout : Layout := ⟨fun places => -5 < places && places ≤ 16, true, false⟩

/-- Numbers in plain text: never an exponent, no empty fraction. -/
def plainLayout : Layout := ⟨fun _ => true, false, true⟩

def zeros (n : Nat) : List Char := List.replicate n '0'

/-- Digits with `places` of them before the point. -/
def positionalText (fraction : Bool) (digits : List Char) (places : Int) : List Char :=
  if places ≤ 0 then '0' :: '.' :: (zeros (-places).toNat ++ digits)
  else if places.toNat < digits.length then
    digits.take places.toNat ++ '.' :: digits.drop places.toNat
  else
    digits ++ zeros (places.toNat - digits.length) ++ (if fraction then ['.', '0'] else [])

def exponentText (e : Int) : List Char :=
  'e' :: (if e < 0 then '-' else '+') :: digitsOf e.natAbs

def scientificText (digits : List Char) (places : Int) : List Char :=
  match digits with
  | [] => []
  | [d] => d :: exponentText (places - 1)
  | d :: ds => d :: '.' :: ds ++ exponentText (places - 1)

def Layout.magnitude (l : Layout) (b : Binary) : List Char :=
  if b.mantissa = 0 then '0' :: (if l.fraction then ['.', '0'] else [])
  else
    let s := shortest l.upOnTie b
    let digits := digitsOf s.coefficient
    let places := s.exponent + digits.length
    if l.positional places then positionalText l.fraction digits places
    else scientificText digits places

/-- A number as text; the names of the two infinities and of what is no number
are those of plain text. -/
def Layout.text (l : Layout) (x : Float) : String :=
  if x.isNaN then "NaN"
  else
    let sign := if isNegative x then ['-'] else []
    let body := if x.isInf then "inf".toList else l.magnitude (.ofFloat x)
    String.ofList (sign ++ body)

end OrgPipeline.Decimal
