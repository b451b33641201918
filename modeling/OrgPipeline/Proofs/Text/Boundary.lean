import Mathlib.Data.List.Infix
import OrgPipeline.Text.Octets

/-!
# Cutting a text at octets

A text can be cut at an octet only between two characters. A cut behind whole
characters is always possible, however many octets these take.
-/

set_option autoImplicit false

namespace OrgPipeline.Text

def octetLength (cs : List Char) : Nat := (cs.flatMap String.utf8EncodeChar).length

@[simp] theorem octetLength_nil : octetLength [] = 0 := rfl

@[simp] theorem octetLength_cons (c : Char) (cs : List Char) :
    octetLength (c :: cs) = c.utf8Size + octetLength cs := by
  simp [octetLength]

@[simp] theorem octetLength_append (a b : List Char) :
    octetLength (a ++ b) = octetLength a + octetLength b := by
  simp [octetLength]

/-- The two parts of a text before and behind an octet; none if the octet is inside a
character or behind the end. -/
def splitAt? : Nat → List Char → Option (List Char × List Char)
  | 0, cs => some ([], cs)
  | _ + 1, [] => none
  | n + 1, c :: cs =>
    if c.utf8Size ≤ n + 1 then
      (splitAt? (n + 1 - c.utf8Size) cs).map fun (a, b) => (c :: a, b)
    else none

/-- The part of a text from one octet to another; none if the text cannot be cut at one
of them, or if they are in the wrong order. -/
def slice? (first last : Nat) (cs : List Char) : Option (List Char) :=
  if first ≤ last then
    (splitAt? first cs).bind fun (_, rest) =>
      (splitAt? (last - first) rest).map fun (inner, _) => inner
  else none

theorem splitAt?_append (a b : List Char) : splitAt? (octetLength a) (a ++ b) = some (a, b) := by
  induction a with
  | nil => simp [splitAt?]
  | cons c a ih =>
    have hsize := c.utf8Size_pos
    obtain ⟨n, hn⟩ : ∃ n, octetLength (c :: a) = n + 1 :=
      ⟨octetLength (c :: a) - 1, by rw [octetLength_cons]; omega⟩
    have hrest : n + 1 - c.utf8Size = octetLength a := by
      rw [← hn, octetLength_cons]
      omega
    rw [hn, List.cons_append, splitAt?, if_pos (by rw [← hn, octetLength_cons]; omega), hrest, ih]
    rfl

/-- A text is cut at an octet exactly if whole characters take that many octets. -/
theorem splitAt?_eq_some_iff {n : Nat} {cs a b : List Char} :
    splitAt? n cs = some (a, b) ↔ cs = a ++ b ∧ octetLength a = n := by
  constructor
  · intro h
    induction cs generalizing n a with
    | nil =>
      cases n with
      | zero =>
        cases h
        exact ⟨rfl, rfl⟩
      | succ n => cases h
    | cons c cs ih =>
      cases n with
      | zero =>
        cases h
        exact ⟨rfl, rfl⟩
      | succ n =>
        rw [splitAt?] at h
        by_cases hsize : c.utf8Size ≤ n + 1
        · rw [if_pos hsize] at h
          obtain ⟨⟨a', b'⟩, hparts, heq⟩ := Option.map_eq_some_iff.1 h
          cases heq
          obtain ⟨hcs, hlength⟩ := ih hparts
          refine ⟨by rw [hcs, List.cons_append], ?_⟩
          rw [octetLength_cons, hlength]
          omega
        · rw [if_neg hsize] at h
          cases h
  · rintro ⟨rfl, rfl⟩
    exact splitAt?_append a b

/-- A part of a text is had exactly if it stands there, with whole characters ahead of it
that take so many octets. -/
theorem slice?_eq_some_iff {first last : Nat} {cs inner : List Char} :
    slice? first last cs = some inner ↔
      ∃ a b, cs = a ++ inner ++ b ∧ octetLength a = first ∧ octetLength (a ++ inner) = last := by
  rw [slice?]
  by_cases horder : first ≤ last
  · rw [if_pos horder, Option.bind_eq_some_iff]
    constructor
    · rintro ⟨⟨a, rest⟩, hfirst, hlast⟩
      obtain ⟨⟨found, b⟩, hinner, heq⟩ := Option.map_eq_some_iff.1 hlast
      have hfound : found = inner := heq
      subst hfound
      obtain ⟨hcs, ha⟩ := splitAt?_eq_some_iff.1 hfirst
      obtain ⟨hrest, hlength⟩ := splitAt?_eq_some_iff.1 hinner
      refine ⟨a, b, by rw [hcs, hrest, List.append_assoc], ha, ?_⟩
      rw [octetLength_append]
      omega
    · rintro ⟨a, b, hcs, ha, hlength⟩
      rw [octetLength_append] at hlength
      refine ⟨(a, inner ++ b), splitAt?_eq_some_iff.2 ⟨by rw [hcs, List.append_assoc], ha⟩, ?_⟩
      exact Option.map_eq_some_iff.2
        ⟨(inner, b), splitAt?_eq_some_iff.2 ⟨rfl, by omega⟩, rfl⟩
  · rw [if_neg horder]
    constructor
    · intro h
      cases h
    · rintro ⟨a, b, -, ha, hlength⟩
      rw [octetLength_append] at hlength
      omega

end OrgPipeline.Text
