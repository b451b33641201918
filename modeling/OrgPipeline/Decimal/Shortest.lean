import OrgPipeline.Decimal.Binary

/-!
# Shortest digits

The fewest decimal digits that still name one number among all: for one digit,
two digits and so on, the two neighbours of the number on that decimal grid
are tried against the interval of values that round to it. The first grid with
a hit wins; of two hits the nearer one is taken.
-/

set_option autoImplicit false

namespace OrgPipeline.Decimal

/-- A decimal magnitude: `coefficient * 10 ^ exponent`. -/
structure Scaled where
  coefficient : Nat
  exponent : Int

def digitsOf (n : Nat) : List Char := Nat.toDigits 10 n

/-- Takes the zeros at the end of the coefficient into the exponent. -/
def Scaled.stripped (fuel : Nat) (s : Scaled) : Scaled :=
  match fuel with
  | 0 => s
  | fuel + 1 =>
    if s.coefficient % 10 = 0 ∧ s.coefficient ≠ 0 then
      stripped fuel ⟨s.coefficient / 10, s.exponent + 1⟩
    else s

/-- A magnitude in quarters of its unit in the last place, and the interval
of magnitudes that round to it. The bounds belong to the interval when the
mantissa is even. -/
structure Interval where
  low : Nat
  value : Nat
  high : Nat
  closed : Bool
  /-- All three are multiples of this power of two. -/
  exponent : Int

/-- Below the least normal mantissa the neighbours lie half as far away. -/
def Interval.around (b : Binary) : Interval :=
  let below := if b.mantissa = twoTo mantissaBits ∧ leastExponent < b.exponent then 1 else 2
  ⟨4 * b.mantissa - below, 4 * b.mantissa, 4 * b.mantissa + 2, b.mantissa % 2 = 0, b.exponent - 2⟩

/-- `n * 2 ^ e` over the decimal unit `10 ^ k` is this quotient. -/
def overUnit (n : Nat) (e k : Int) : Nat × Nat :=
  (n * twoTo e.toNat * tenTo (-k).toNat, twoTo (-e).toNat * tenTo k.toNat)

/-- `10 ^ k` does not exceed `n * 2 ^ e`. -/
def reaches (n : Nat) (e k : Int) : Bool :=
  let (num, den) := overUnit n e k
  den ≤ num

/-- The exponent of the leading decimal digit, found from an estimate that
errs by at most one. -/
def leadingExponent (n : Nat) (e : Int) : Int :=
  let guess := ((Nat.log2 n : Int) + e) * 30103 / 100000
  if reaches n e (guess + 1) then guess + 1
  else if reaches n e guess then guess
  else guess - 1

/-- The point `c * 10 ^ k` of a grid lies in the interval. -/
def Interval.holds (i : Interval) (c : Nat) (k : Int) : Bool :=
  let (ln, ld) := overUnit i.low i.exponent k
  let (hn, hd) := overUnit i.high i.exponent k
  if i.closed then ln ≤ c * ld && c * hd ≤ hn else ln < c * ld && c * hd < hn

/-- Which of the two neighbours on the grid of unit `10 ^ k` names the number. -/
def Interval.neighbour? (i : Interval) (upOnTie : Bool) (k : Int) : Option Nat :=
  let (num, den) := overUnit i.value i.exponent k
  let c := num / den
  let r := num % den
  match i.holds c k, i.holds (c + 1) k with
  | true, true =>
    if 2 * r < den then some c
    else if den < 2 * r then some (c + 1)
    else some (if upOnTie || c % 2 = 1 then c + 1 else c)
  | true, false => some c
  | false, true => some (c + 1)
  | false, false => none

/-- The first of the grids with one digit, two digits and so on that has a
point in the interval. -/
def Interval.search (i : Interval) (upOnTie : Bool) : Nat → Int → Option Scaled
  | 0, _ => none
  | fuel + 1, k =>
    match i.neighbour? upOnTie k with
    | some c => some ⟨c, k⟩
    | none => i.search upOnTie fuel (k - 1)

/-- The shortest decimal of a nonzero magnitude. A decimal midway between two
candidates goes up, or to the even one. -/
def shortest (upOnTie : Bool) (b : Binary) : Scaled :=
  let i := Interval.around b
  let lead := leadingExponent i.value i.exponent
  ((i.search upOnTie 17 lead).getD ⟨b.mantissa, 0⟩).stripped 20

end OrgPipeline.Decimal
