/-!
# Octets read as text

File contents and program output are octets. `Octets.text?` reads well formed
UTF-8 and refuses everything else; `Octets.lossy` reads any octets, writing
the replacement character for each longest ill formed start of a sequence.
-/

set_option autoImplicit false

namespace OrgPipeline

abbrev Octets := List UInt8

namespace Octets

def replacement : Char := Char.ofNat 0xFFFD

/-- A sequence under way: the bounds of its next octet, how many octets are
still due, and the bits read so far. -/
structure Pending where
  low : Nat
  high : Nat
  due : Nat
  bits : Nat

/-- What an octet outside any sequence is: a character, a lead octet, or
ill formed (`none` among the characters written). -/
def start (b : Nat) : List (Option Char) × Option Pending :=
  if b < 0x80 then ([some (Char.ofNat b)], none)
  else if 0xC2 ≤ b ∧ b ≤ 0xDF then ([], some ⟨0x80, 0xBF, 1, b % 32⟩)
  else if b = 0xE0 then ([], some ⟨0xA0, 0xBF, 2, b % 16⟩)
  else if b = 0xED then ([], some ⟨0x80, 0x9F, 2, b % 16⟩)
  else if 0xE1 ≤ b ∧ b ≤ 0xEF then ([], some ⟨0x80, 0xBF, 2, b % 16⟩)
  else if b = 0xF0 then ([], some ⟨0x90, 0xBF, 3, b % 8⟩)
  else if 0xF1 ≤ b ∧ b ≤ 0xF3 then ([], some ⟨0x80, 0xBF, 3, b % 8⟩)
  else if b = 0xF4 then ([], some ⟨0x80, 0x8F, 3, b % 8⟩)
  else ([none], none)

/-- One octet on: what is written and what is pending then. An octet that
cannot continue the pending sequence ends it as ill formed and starts anew. -/
def advance (pending : Option Pending) (b : Nat) : List (Option Char) × Option Pending :=
  match pending with
  | none => start b
  | some p =>
    if p.low ≤ b ∧ b ≤ p.high then
      let bits := p.bits * 64 + b % 64
      if p.due = 1 then ([some (Char.ofNat bits)], none)
      else ([], some ⟨0x80, 0xBF, p.due - 1, bits⟩)
    else (none :: (start b).1, (start b).2)

def decodeFrom : Option Pending → Octets → List (Option Char)
  | none, [] => []
  | some _, [] => [none]
  | pending, b :: rest =>
    (advance pending b.toNat).1 ++ decodeFrom (advance pending b.toNat).2 rest

/-- The characters of octets in order, `none` for each ill formed piece. -/
def decode (bs : Octets) : List (Option Char) := decodeFrom none bs

def lossy (bs : Octets) : String :=
  String.ofList ((decode bs).map fun c => c.getD replacement)

def text? (bs : Octets) : Option String :=
  ((decode bs).mapM id).map String.ofList

def ofText (s : String) : Octets := s.toList.flatMap String.utf8EncodeChar

end Octets
end OrgPipeline
