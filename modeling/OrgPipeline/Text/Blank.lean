/-!
# White space and trimming

Two classes of white space are in use. Parameters, identifiers and program
output are trimmed of every character with the property White_Space; markup
text only of the four blanks that markup itself knows.
-/

set_option autoImplicit false

namespace OrgPipeline.Text

/-- The characters with the property White_Space. -/
def isBlank (c : Char) : Bool :=
  let n := c.toNat
  (9 ≤ n && n ≤ 13) || n == 0x20 || n == 0x85 || n == 0xA0 || n == 0x1680 ||
    (0x2000 ≤ n && n ≤ 0x200A) || n == 0x2028 || n == 0x2029 || n == 0x202F ||
    n == 0x205F || n == 0x3000

def isMarkupBlank (c : Char) : Bool :=
  c == ' ' || c == '\t' || c == '\r' || c == '\n'

/-- Drops the longest run at the end whose characters all satisfy `p`. -/
def dropEndWhile (p : Char → Bool) (cs : List Char) : List Char :=
  (cs.reverse.dropWhile p).reverse

def trimList (p : Char → Bool) (cs : List Char) : List Char :=
  dropEndWhile p (cs.dropWhile p)

def trim (s : String) : String := String.ofList (trimList isBlank s.toList)

def blank (s : String) : Bool := s.toList.all isBlank

theorem dropEndWhile_append (p : Char → Bool) (cs ws : List Char) (h : ws.all p = true) :
    dropEndWhile p (cs ++ ws) = dropEndWhile p cs := by
  have hw : ∀ w ∈ ws.reverse, p w = true := by
    intro w hm; exact List.all_eq_true.1 h w (List.mem_reverse.1 hm)
  rw [dropEndWhile, List.reverse_append]
  congr 1
  generalize ws.reverse = rs at hw
  induction rs with
  | nil => rfl
  | cons r rs ih =>
    rw [List.cons_append, List.dropWhile_cons_of_pos (hw r (by simp))]
    exact ih (fun w hm => hw w (by simp [hm]))

theorem trimList_nil (p : Char → Bool) : trimList p [] = [] := rfl

end OrgPipeline.Text
