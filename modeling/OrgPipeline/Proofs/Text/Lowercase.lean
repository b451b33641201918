import OrgPipeline.Text.Lowercase

/-!
# Words in any case

Some capitals of other scripts have the small letters i and k. A word without these two
is the lower case of exactly those texts that spell it with the letters from a to z,
small or capital.
-/

set_option autoImplicit false

namespace OrgPipeline.Text

def IsOrdinary (c : Char) : Prop :=
  97 ≤ c.toNat ∧ c.toNat ≤ 122 ∧ c.toNat ≠ 105 ∧ c.toNat ≠ 107

instance (c : Char) : Decidable (IsOrdinary c) := inferInstanceAs (Decidable (_ ∧ _))

theorem capitalRuns_lower :
    ∀ run ∈ capitalRuns, 0x80 ≤ run.lower ∨ (run.lower = 107 ∧ run.first = run.last) := by
  decide +kernel

theorem toNat_ofNat_or (n : Nat) : (Char.ofNat n).toNat = n ∨ (Char.ofNat n).toNat = 0 := by
  by_cases h : n.isValidChar
  · exact Or.inl (congrArg Char.toNat (dif_pos h))
  · exact Or.inr (congrArg Char.toNat (dif_neg h))

theorem not_ordinary_of_lower? {run : CapitalRun} (hrun : run ∈ capitalRuns) {n m : Nat}
    (h : run.lower? n = some m) : ¬ IsOrdinary (Char.ofNat m) := by
  have hlower := capitalRuns_lower run hrun
  rw [CapitalRun.lower?] at h
  split at h
  · next hrange =>
    simp only [Bool.and_eq_true, decide_eq_true_eq] at hrange
    have hm := Option.some.inj h
    rcases toNat_ofNat_or m with hcode | hcode
    · rw [IsOrdinary, hcode]
      omega
    · rw [IsOrdinary, hcode]
      omega
  · cases h

theorem lowerChar_ascii {c : Char} (h : c.toNat < 0x80) : lowerChar c = [c.toLower] := by
  rw [lowerChar, if_pos h]

theorem lowerChar_beyond {c : Char} (h : 0x80 ≤ c.toNat) :
    ∃ d rest, lowerChar c = d :: rest ∧ ¬ IsOrdinary d := by
  rw [lowerChar, if_neg (Nat.not_lt.2 h)]
  split
  · exact ⟨_, _, rfl, by decide⟩
  · refine ⟨_, _, rfl, ?_⟩
    cases hm : capitalRuns.findSome? (·.lower? c.toNat) with
    | none =>
      rintro ⟨-, hz, -⟩
      simp only [Option.map_none, Option.getD_none] at hz
      omega
    | some m =>
      obtain ⟨run, hrun, hlower⟩ := List.exists_of_findSome?_eq_some hm
      exact not_ordinary_of_lower? hrun hlower

theorem toLower_eq_self {c : Char} (h : c.toNat < 65 ∨ 90 < c.toNat) : c.toLower = c := by
  apply dif_neg
  rintro ⟨hfirst, hlast⟩
  have hge : 65 ≤ c.toNat := hfirst
  have hle : c.toNat ≤ 90 := hlast
  omega

theorem lowerFrom_eq_iff {word : List Char} (hword : ∀ d ∈ word, IsOrdinary d)
    (before cs : List Char) : lowerFrom before cs = word ↔ cs.map Char.toLower = word := by
  induction cs generalizing before word with
  | nil => rfl
  | cons c cs ih =>
    rw [lowerFrom, List.map_cons]
    by_cases hc : c.toNat < 0x80
    · have hsigma : c ≠ capitalSigma := by
        rintro rfl
        exact absurd hc (by decide)
      rw [if_neg hsigma, lowerChar_ascii hc, List.singleton_append]
      cases word with
      | nil => simp
      | cons d ds => rw [List.cons.injEq, List.cons.injEq, ih (fun e he => hword e (by simp [he]))]
    · have hbeyond : 0x80 ≤ c.toNat := Nat.not_lt.1 hc
      -- what such a character becomes does not begin as the word does
      obtain ⟨x, xs, hx, hother⟩ : ∃ x xs, (if c = capitalSigma then
          [if nextCased before && !nextCased cs then finalSigma else smallSigma]
          else lowerChar c) = x :: xs ∧ ¬ IsOrdinary x := by
        split
        · refine ⟨_, [], rfl, ?_⟩
          split <;> decide
        · exact lowerChar_beyond hbeyond
      rw [hx, toLower_eq_self (by omega), List.cons_append]
      constructor
      · rintro rfl
        exact absurd (hword x (by simp)) hother
      · rintro rfl
        have hz := (hword c (by simp)).2.1
        omega

theorem lowercase_eq_iff {word : String} (hword : ∀ d ∈ word.toList, IsOrdinary d)
    (text : String) : lowercase text = word ↔ text.toList.map Char.toLower = word.toList := by
  rw [← lowerFrom_eq_iff hword [] text.toList, lowercase]
  constructor
  · rintro rfl
    exact String.toList_ofList.symm
  · intro h
    rw [h, String.ofList_toList]

end OrgPipeline.Text
