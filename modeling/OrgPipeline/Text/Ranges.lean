/-!
# Ranges of characters

A property of characters is given as an ascending array of disjoint ranges of
code points. Membership is found by halving the array.
-/

set_option autoImplicit false

namespace OrgPipeline.Text

abbrev Ranges := Array (Nat × Nat)

namespace Ranges

/-- The last range that starts at or below `n`, sought among the first `size`
ranges from place `start` on. -/
def seek (ranges : Ranges) (n : Nat) (start size : Nat) : Option (Nat × Nat) :=
  if size ≤ 1 then (ranges[start]?).filter fun r => size = 1 && r.1 ≤ n
  else
    let half := size / 2
    match ranges[start + half]? with
    | none => none
    | some r =>
      if r.1 ≤ n then seek ranges n (start + half) (size - half) else seek ranges n start half
termination_by size

def mem (ranges : Ranges) (c : Char) : Bool :=
  match seek ranges c.toNat 0 ranges.size with
  | none => false
  | some r => c.toNat ≤ r.2

end Ranges
end OrgPipeline.Text
