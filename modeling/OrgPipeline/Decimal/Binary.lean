/-!
# Binary floating point, exactly

A finite number is a natural mantissa times a power of two. `Binary.ofFloat`
takes a number apart and `nearest` puts the number closest to a quotient of
naturals together, a half going to the even mantissa; both count exactly.
-/

set_option autoImplicit false

namespace OrgPipeline.Decimal

def twoTo (n : Nat) : Nat := Nat.pow 2 n

def tenTo (n : Nat) : Nat := Nat.pow 10 n

/-- A magnitude: `mantissa * 2 ^ exponent`. -/
structure Binary where
  mantissa : Nat
  exponent : Int

/-- The least exponent, at which mantissas need not be normal. -/
def leastExponent : Int := -1074

def mantissaBits : Nat := 52

def infinityBits : Nat := 0x7FF0000000000000

def signBit : Nat := 0x8000000000000000

def Binary.ofBits (bits : Nat) : Binary :=
  let field := bits / twoTo mantissaBits % 2048
  let low := bits % twoTo mantissaBits
  if field = 0 then ⟨low, leastExponent⟩
  else ⟨low + twoTo mantissaBits, (field : Int) + leastExponent - 1⟩

def Binary.ofFloat (x : Float) : Binary := .ofBits x.toBits.toNat

def isNegative (x : Float) : Bool := signBit ≤ x.toBits.toNat

/-- The quotient rounded to the nearest natural, a half to the even one. -/
def roundHalfEven (num den : Nat) : Nat :=
  let q := num / den
  let r := num % den
  if 2 * r < den then q else if den < 2 * r then q + 1 else q + q % 2

/-- `num / den` as a quotient in units of `2 ^ e`. -/
def inUnits (num den : Nat) (e : Int) : Nat × Nat :=
  if 0 ≤ e then (num, den * twoTo e.toNat) else (num * twoTo (-e).toNat, den)

/-- The exponent at which the mantissa of `num / den` has its full length. -/
def unitExponent (num den : Nat) : Int :=
  let low := max ((Nat.log2 num : Int) - Nat.log2 den - 53) leastExponent
  let (n, d) := inUnits num den low
  if twoTo 53 ≤ n / d then low + 1 else low

/-- The bits of the number nearest to `num / den`; too large is infinite. -/
def nearestBits (num den : Nat) : Nat :=
  if num = 0 then 0
  else
    let e := unitExponent num den
    let (n, d) := inUnits num den e
    min ((e - leastExponent).toNat * twoTo mantissaBits + roundHalfEven n d) infinityBits

def signed (negative : Bool) (bits : Nat) : Float :=
  Float.ofBits (UInt64.ofNat (if negative then bits + signBit else bits))

def nearest (negative : Bool) (num den : Nat) : Float := signed negative (nearestBits num den)

def ofNat (n : Nat) : Float := nearest false n 1

def ofInt (n : Int) : Float := nearest (n < 0) n.natAbs 1

example : (ofInt (-3) == -3.0) ∧ (nearest false 1 10 == 0.1) := by decide +kernel

end OrgPipeline.Decimal
