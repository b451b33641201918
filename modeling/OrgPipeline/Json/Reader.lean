import OrgPipeline.Json.Basic
import OrgPipeline.Decimal.Reader
import OrgPipeline.Text.Octets

/-!
# Reading JSON

One value with blanks around it and nothing after it. Of two members of one
name the later one counts. Values may be nested to a fixed depth. A number with
neither fraction nor exponent is an integer if 64 bits hold it; otherwise its
leading digits are read as an integer that 64 bits hold, and that is scaled by
one power of ten.
-/

set_option autoImplicit false

namespace OrgPipeline.Json

def isSpace (c : Char) : Bool := c == ' ' || c == '\n' || c == '\t' || c == '\r'

def skipSpace (cs : List Char) : List Char := cs.dropWhile isSpace

def hexValue? (c : Char) : Option Nat :=
  if '0' ≤ c ∧ c ≤ '9' then some (c.toNat - '0'.toNat)
  else if 'a' ≤ c ∧ c ≤ 'f' then some (c.toNat - 'a'.toNat + 10)
  else if 'A' ≤ c ∧ c ≤ 'F' then some (c.toNat - 'A'.toNat + 10)
  else none

def hexUnit? (cs : List Char) : Option (Nat × List Char) :=
  match cs with
  | a :: b :: c :: d :: rest => do
    let a ← hexValue? a
    let b ← hexValue? b
    let c ← hexValue? c
    let d ← hexValue? d
    some (((a * 16 + b) * 16 + c) * 16 + d, rest)
  | _ => none

def isHighUnit (n : Nat) : Bool := 0xD800 ≤ n && n ≤ 0xDBFF
def isLowUnit (n : Nat) : Bool := 0xDC00 ≤ n && n ≤ 0xDFFF

/-- The character of one unit, or of a high and a low unit together. -/
def unitChar? (cs : List Char) : Option (Char × List Char) := do
  let (unit, rest) ← hexUnit? cs
  if isLowUnit unit then none
  else if isHighUnit unit then
    match rest with
    | '\\' :: 'u' :: rest =>
      let (low, rest) ← hexUnit? rest
      if isLowUnit low then
        some (Char.ofNat ((unit - 0xD800) * 1024 + (low - 0xDC00) + 0x10000), rest)
      else none
    | _ => none
  else some (Char.ofNat unit, rest)

def escaped? (cs : List Char) : Option (Char × List Char) :=
  match cs with
  | [] => none
  | c :: rest =>
    if c = '"' ∨ c = '\\' ∨ c = '/' then some (c, rest)
    else if c = 'b' then some ('\x08', rest)
    else if c = 'f' then some ('\x0c', rest)
    else if c = 'n' then some ('\n', rest)
    else if c = 'r' then some ('\r', rest)
    else if c = 't' then some ('\t', rest)
    else if c = 'u' then unitChar? rest
    else none

/-- The characters up to the closing quote, and what stands after it. -/
def stringTail? : Nat → List Char → Option (List Char × List Char)
  | 0, _ => none
  | _ + 1, [] => none
  | fuel + 1, c :: rest =>
    if c = '"' then some ([], rest)
    else if c = '\\' then do
      let (d, rest) ← escaped? rest
      let (s, rest) ← stringTail? fuel rest
      some (d :: s, rest)
    else if c.toNat < 0x20 then none
    else do
      let (s, rest) ← stringTail? fuel rest
      some (c :: s, rest)

def string? (cs : List Char) : Option (String × List Char) :=
  match cs with
  | '"' :: rest => (stringTail? (rest.length + 1) rest).map fun (s, r) => (String.ofList s, r)
  | _ => none

/-! ## Numbers -/

def maxUnsigned : Nat := Decimal.twoTo 64 - 1
def maxSigned : Nat := Decimal.twoTo 63 - 1
def maxExponent : Nat := Decimal.twoTo 31 - 1

/-- Digits taken into a number while it stays within a bound: the number, how
many were taken, and what follows. -/
def takeDigits (bound : Nat) : Nat → Nat → List Char → Nat × Nat × List Char
  | n, count, [] => (n, count, [])
  | n, count, c :: cs =>
    if Decimal.isDigit c then
      let m := n * 10 + Decimal.digitValue c
      if m ≤ bound then takeDigits bound m (count + 1) cs else (n, count, c :: cs)
    else (n, count, c :: cs)

def startsWithDigit : List Char → Bool
  | [] => false
  | c :: _ => Decimal.isDigit c

/-- The largest power of ten among the numbers. -/
def largestPower : Nat := 308

def powerOfTen (n : Nat) : Float := Decimal.ofNat (Decimal.tenTo n)

/-- Divides by the largest power of ten until the exponent is within reach. -/
def scaleDown : Nat → Float → Int → Float
  | 0, f, _ => f
  | fuel + 1, f, e =>
    if e.natAbs ≤ largestPower then f / powerOfTen e.natAbs
    else if f == 0 then f
    else scaleDown fuel (f / powerOfTen largestPower) (e + largestPower)

def scale? (significand : Nat) (exponent : Int) : Option Float :=
  let f := Decimal.ofNat significand
  if 0 ≤ exponent then
    if exponent.toNat ≤ largestPower then
      let g := f * powerOfTen exponent.toNat
      if g.isInf then none else some g
    else if f == 0 then some f
    else none
  else some (scaleDown 4 f exponent)

def floatOf (negative : Bool) (f : Float) : Number := .float (if negative then -f else f)

def clampExponent (e : Int) : Int := max (-(maxExponent + 1 : Int)) (min e maxExponent)

/-- The exponent after its letter. Digits beyond 32 bits leave zero or nothing:
zero for a small number, none for a large one. -/
def exponentOf (negative : Bool) (significand : Nat) (start : Int) (cs : List Char) :
    Option (Number × List Char) :=
  let (down, digits) := match cs with
    | '-' :: rest => (true, rest)
    | '+' :: rest => (false, rest)
    | rest => (false, rest)
  if startsWithDigit digits then
    let (e, _, rest) := takeDigits maxExponent 0 0 digits
    if startsWithDigit rest then
      if significand = 0 || down then
        some (floatOf negative (Decimal.ofNat 0), rest.dropWhile Decimal.isDigit)
      else none
    else
      let exponent := clampExponent (if down then start - e else start + e)
      (scale? significand exponent).map fun f => (floatOf negative f, rest)
  else none

def scaledOrExponent (negative : Bool) (significand : Nat) (exponent : Int) (cs : List Char) :
    Option (Number × List Char) :=
  match cs with
  | 'e' :: rest => exponentOf negative significand exponent rest
  | 'E' :: rest => exponentOf negative significand exponent rest
  | rest => (scale? significand exponent).map fun f => (floatOf negative f, rest)

/-- The digits after the point; those that no longer fit are passed over. -/
def fractionOf (negative : Bool) (significand : Nat) (exponent : Int) (cs : List Char) :
    Option (Number × List Char) :=
  if startsWithDigit cs then
    let (n, count, rest) := takeDigits maxUnsigned significand 0 cs
    let exponent := exponent - count
    if startsWithDigit rest then
      scaledOrExponent negative n exponent (rest.dropWhile Decimal.isDigit)
    else scaledOrExponent negative n exponent rest
  else none

def afterInteger (negative : Bool) (n : Nat) (cs : List Char) : Option (Number × List Char) :=
  match cs with
  | '.' :: rest => fractionOf negative n 0 rest
  | 'e' :: rest => exponentOf negative n 0 rest
  | 'E' :: rest => exponentOf negative n 0 rest
  | rest =>
    if negative then
      if n = 0 ∨ maxSigned + 1 < n then some (floatOf true (Decimal.ofNat n), rest)
      else some (.int (-n), rest)
    else some (.int n, rest)

/-- What follows an integer part too long for 64 bits. -/
def afterLongInteger (negative : Bool) (n : Nat) (cs : List Char) : Option (Number × List Char) :=
  let dropped := (cs.takeWhile Decimal.isDigit).length
  match cs.dropWhile Decimal.isDigit with
  | '.' :: rest => fractionOf negative n dropped rest
  | rest => scaledOrExponent negative n dropped rest

def magnitude? (negative : Bool) (cs : List Char) : Option (Number × List Char) :=
  match cs with
  | '0' :: rest => if startsWithDigit rest then none else afterInteger negative 0 rest
  | cs =>
    if startsWithDigit cs then
      let (n, _, rest) := takeDigits maxUnsigned 0 0 cs
      if startsWithDigit rest then afterLongInteger negative n rest
      else afterInteger negative n rest
    else none

def number? (cs : List Char) : Option (Number × List Char) :=
  match cs with
  | '-' :: rest => magnitude? true rest
  | rest => magnitude? false rest

/-! ## Values -/

/-- How many arrays and objects may lie inside one another. -/
def depthLimit : Nat := 127

def literal? (word : String) (v : Json) (cs : List Char) : Option (Json × List Char) :=
  (Text.afterList word.toList cs).map fun rest => (v, rest)

mutual

def value? : Nat → Nat → List Char → Option (Json × List Char)
  | 0, _, _ => none
  | fuel + 1, depth, cs =>
    match skipSpace cs with
    | [] => none
    | '"' :: rest => (string? ('"' :: rest)).map fun (s, r) => (.str s, r)
    | '[' :: rest =>
      match depth with
      | 0 => none
      | depth + 1 =>
        match skipSpace rest with
        | ']' :: rest => some (.arr [], rest)
        | rest => (items? fuel depth rest).map fun (vs, r) => (.arr vs, r)
    | '\x7b' :: rest =>
      match depth with
      | 0 => none
      | depth + 1 =>
        match skipSpace rest with
        | '\x7d' :: rest => some (.obj [], rest)
        | rest => (members? fuel depth rest).map fun (ms, r) => (object ms, r)
    | 't' :: rest => literal? "rue" (.bool true) rest
    | 'f' :: rest => literal? "alse" (.bool false) rest
    | 'n' :: rest => literal? "ull" .null rest
    | rest => (number? rest).map fun (n, r) => (.num n, r)

def items? : Nat → Nat → List Char → Option (List Json × List Char)
  | 0, _, _ => none
  | fuel + 1, depth, cs => do
    let (v, rest) ← value? fuel depth cs
    match skipSpace rest with
    | ',' :: rest =>
      let (vs, rest) ← items? fuel depth rest
      some (v :: vs, rest)
    | ']' :: rest => some ([v], rest)
    | _ => none

def members? : Nat → Nat → List Char → Option (Members × List Char)
  | 0, _, _ => none
  | fuel + 1, depth, cs => do
    let (name, rest) ← string? (skipSpace cs)
    match skipSpace rest with
    | ':' :: rest =>
      let (v, rest) ← value? fuel depth rest
      match skipSpace rest with
      | ',' :: rest =>
        let (ms, rest) ← members? fuel depth rest
        some ((name, v) :: ms, rest)
      | '\x7d' :: rest => some ([(name, v)], rest)
      | _ => none
    | _ => none

end

def stepsFor (cs : List Char) : Nat := 2 * cs.length + 2

def readList (cs : List Char) : Option Json := do
  let (v, rest) ← value? (stepsFor cs) depthLimit cs
  if (skipSpace rest).isEmpty then some v else none

def read (s : String) : Option Json := readList s.toList

end OrgPipeline.Json
