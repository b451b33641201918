import OrgPipeline.Text.Split

/-!
# Pieces of a text

Cutting at a separator undoes joining with it, as long as no piece contains the
separator. A text contains another one exactly if that one stands somewhere in
it as a whole.
-/

set_option autoImplicit false

namespace OrgPipeline.Text

theorem splitList_append_sep (sep : Char) (a b : List Char) :
    splitList sep (a ++ sep :: b) = splitList sep a ++ splitList sep b := by
  induction a with
  | nil => simp [splitList]
  | cons c a ih =>
    rw [List.cons_append, splitList, splitList]
    by_cases hc : c = sep
    · simp [hc, ih]
    · simp only [hc, if_false, ih]
      obtain ⟨piece, rest, hs⟩ := List.exists_cons_of_ne_nil (splitList_ne_nil sep a)
      simp [hs]

theorem splitList_of_not_mem (sep : Char) (cs : List Char) (h : sep ∉ cs) :
    splitList sep cs = [cs] := by
  induction cs with
  | nil => rfl
  | cons c cs ih =>
    simp only [List.mem_cons, not_or] at h
    rw [splitList, if_neg (Ne.symm h.1), ih h.2]

/-- No piece has the separator in it. -/
theorem not_mem_of_mem_splitList {sep : Char} {cs piece : List Char}
    (h : piece ∈ splitList sep cs) : sep ∉ piece := by
  induction cs generalizing piece with
  | nil =>
    rw [splitList, List.mem_singleton] at h
    rw [h]
    exact List.not_mem_nil
  | cons c cs ih =>
    rw [splitList] at h
    by_cases hc : c = sep
    · rw [if_pos hc, List.mem_cons] at h
      rcases h with rfl | hrest
      · exact List.not_mem_nil
      · exact ih hrest
    · rw [if_neg hc] at h
      obtain ⟨first, rest, hs⟩ := List.exists_cons_of_ne_nil (splitList_ne_nil sep cs)
      rw [hs] at h ih
      dsimp only at h
      rw [List.mem_cons] at h
      rcases h with rfl | hrest
      · rw [List.mem_cons, not_or]
        exact ⟨Ne.symm hc, ih List.mem_cons_self⟩
      · exact ih (List.mem_cons_of_mem _ hrest)

/-- The pieces consist of characters of the text. -/
theorem mem_of_mem_splitList {sep c : Char} {cs piece : List Char} (h : piece ∈ splitList sep cs)
    (hc : c ∈ piece) : c ∈ cs := by
  induction cs generalizing piece with
  | nil =>
    rw [splitList, List.mem_singleton] at h
    exact absurd (h ▸ hc) List.not_mem_nil
  | cons d cs ih =>
    rw [splitList] at h
    by_cases hd : d = sep
    · rw [if_pos hd, List.mem_cons] at h
      rcases h with rfl | hrest
      · exact absurd hc List.not_mem_nil
      · exact List.mem_cons_of_mem d (ih hrest hc)
    · rw [if_neg hd] at h
      obtain ⟨first, rest, hs⟩ := List.exists_cons_of_ne_nil (splitList_ne_nil sep cs)
      rw [hs] at h ih
      dsimp only at h
      rw [List.mem_cons] at h
      rcases h with rfl | hrest
      · rcases List.mem_cons.1 hc with rfl | hc
        · exact List.mem_cons_self
        · exact List.mem_cons_of_mem d (ih List.mem_cons_self hc)
      · exact List.mem_cons_of_mem d (ih (List.mem_cons_of_mem _ hrest) hc)

theorem toList_join_cons (sep : Char) (piece : String) {pieces : List String}
    (h : pieces ≠ []) :
    (join sep.toString (piece :: pieces)).toList =
      piece.toList ++ sep :: (join sep.toString pieces).toList := by
  obtain ⟨next, others, rfl⟩ := List.exists_cons_of_ne_nil h
  simp [join]

theorem mem_toList_join {sep c : Char} {pieces : List String}
    (h : c ∈ (join sep.toString pieces).toList) :
    c = sep ∨ ∃ piece ∈ pieces, c ∈ piece.toList := by
  induction pieces with
  | nil => simp [join] at h
  | cons piece pieces ih =>
    by_cases hlast : pieces = []
    · subst hlast
      exact Or.inr ⟨piece, by simp, by simpa [join] using h⟩
    · rw [toList_join_cons sep piece hlast, List.mem_append, List.mem_cons] at h
      rcases h with h | rfl | h
      · exact Or.inr ⟨piece, by simp, h⟩
      · exact Or.inl rfl
      · rcases ih h with rfl | ⟨other, ho, hc⟩
        · exact Or.inl rfl
        · exact Or.inr ⟨other, List.mem_cons_of_mem _ ho, hc⟩

theorem splitList_join (sep : Char) {pieces : List String} (hne : pieces ≠ [])
    (h : ∀ piece ∈ pieces, sep ∉ piece.toList) :
    splitList sep (join sep.toString pieces).toList = pieces.map String.toList := by
  induction pieces with
  | nil => exact absurd rfl hne
  | cons piece pieces ih =>
    have hpiece : splitList sep piece.toList = [piece.toList] :=
      splitList_of_not_mem sep _ (h piece (by simp))
    by_cases hlast : pieces = []
    · subst hlast
      simpa [join] using hpiece
    · have hothers := ih hlast fun other ho => h other (by simp [ho])
      rw [toList_join_cons sep piece hlast, splitList_append_sep, hpiece, hothers]
      rfl

/-- Joining gives the text back that was cut. -/
theorem join_split (sep : Char) (s : String) : join sep.toString (split sep s) = s := by
  have hlist (cs : List Char) :
      (join sep.toString ((splitList sep cs).map String.ofList)).toList = cs := by
    induction cs with
    | nil => simp [splitList, join]
    | cons c cs ih =>
      obtain ⟨piece, rest, hs⟩ := List.exists_cons_of_ne_nil (splitList_ne_nil sep cs)
      rw [hs] at ih
      by_cases hc : c = sep
      · subst hc
        rw [splitList, if_pos rfl, List.map_cons, toList_join_cons _ _ (by simp [hs]), hs, ih]
        simp
      · rw [splitList, if_neg hc, hs]
        dsimp only
        by_cases hlast : rest = []
        · subst hlast
          simpa [join] using ih
        · have hne : rest.map String.ofList ≠ [] := by simpa using hlast
          rw [List.map_cons, toList_join_cons _ _ hne, String.toList_ofList] at ih
          rw [List.map_cons, toList_join_cons _ _ hne, String.toList_ofList, List.cons_append, ih]
  rw [← String.toList_inj]
  exact hlist s.toList

theorem splitOnceList_eq_none_iff {sep : Char} {cs : List Char} :
    splitOnceList sep cs = none ↔ sep ∉ cs := by
  induction cs with
  | nil => simp [splitOnceList]
  | cons c cs ih =>
    rw [splitOnceList]
    by_cases hc : c = sep
    · simp [hc]
    · simp [hc, ih, Ne.symm hc]

theorem of_splitOnceList {sep : Char} {cs a b : List Char}
    (h : splitOnceList sep cs = some (a, b)) : cs = a ++ sep :: b ∧ sep ∉ a := by
  induction cs generalizing a with
  | nil => cases h
  | cons c cs ih =>
    rw [splitOnceList] at h
    by_cases hc : c = sep
    · rw [if_pos hc] at h
      cases h
      exact ⟨by rw [hc, List.nil_append], List.not_mem_nil⟩
    · rw [if_neg hc] at h
      obtain ⟨⟨a', b'⟩, hsplit, heq⟩ := Option.map_eq_some_iff.1 h
      cases heq
      obtain ⟨hcs, hnot⟩ := ih hsplit
      refine ⟨by rw [hcs, List.cons_append], ?_⟩
      rw [List.mem_cons, not_or]
      exact ⟨Ne.symm hc, hnot⟩

theorem splitOnce_eq_none_iff {sep : Char} {s : String} :
    splitOnce sep s = none ↔ sep ∉ s.toList := by
  rw [splitOnce, Option.map_eq_none_iff, splitOnceList_eq_none_iff]

theorem splitOnce_eq_some_iff {sep : Char} {s a b : String} :
    splitOnce sep s = some (a, b) ↔ s = a ++ sep.toString ++ b ∧ sep ∉ a.toList := by
  constructor
  · intro h
    obtain ⟨⟨a', b'⟩, hsplit, heq⟩ := Option.map_eq_some_iff.1 h
    cases heq
    obtain ⟨hcs, hnot⟩ := of_splitOnceList hsplit
    refine ⟨?_, by rwa [String.toList_ofList]⟩
    rw [← String.toList_inj, hcs]
    simp
  · rintro ⟨rfl, hnot⟩
    have hcs : (a ++ sep.toString ++ b).toList = a.toList ++ sep :: b.toList := by simp
    rw [splitOnce, hcs, splitOnceList_append hnot]
    simp

theorem after_eq_some_iff {lead s rest : String} : after lead s = some rest ↔ s = lead ++ rest := by
  constructor
  · intro h
    obtain ⟨cs, hcs, rfl⟩ := Option.map_eq_some_iff.1 h
    rw [← String.toList_inj, afterList_eq_some hcs]
    simp
  · rintro rfl
    rw [after, String.toList_append, afterList_append]
    simp

theorem afterList_isSome_iff (lead cs : List Char) :
    (afterList lead cs).isSome = true ↔ lead <+: cs := by
  constructor
  · intro h
    obtain ⟨rest, hrest⟩ := Option.isSome_iff_exists.1 h
    exact ⟨rest, (afterList_eq_some hrest).symm⟩
  · rintro ⟨rest, rfl⟩
    rw [afterList_append]
    rfl

theorem startsWith_iff (lead s : String) :
    startsWith lead s = true ↔ lead.toList <+: s.toList :=
  afterList_isSome_iff _ _

theorem containsList_iff_infix (needle cs : List Char) :
    containsList needle cs = true ↔ needle <:+: cs := by
  induction cs with
  | nil => simp [containsList]
  | cons c cs ih =>
    rw [containsList, Bool.or_eq_true, afterList_isSome_iff, ih, List.infix_cons_iff]

theorem contains_iff_infix (needle s : String) :
    contains needle s = true ↔ needle.toList <:+: s.toList :=
  containsList_iff_infix _ _

end OrgPipeline.Text
