import Mathlib.Data.List.DropRight
import OrgPipeline.Xml.Entity
import OrgPipeline.Text.Blank

/-!
# Escaped text

Reading undoes escaping, whatever the text, and what is escaped contains none
of the signs of markup. No character that is escaped is a blank, and neither do
its references begin or end with one, so that trimming commutes with escaping.
-/

set_option autoImplicit false

namespace OrgPipeline.Xml

open Text (isMarkupBlank)

def isMarkup (c : Char) : Bool :=
  c = '<' ∨ c = '>' ∨ c = '&' ∨ c = '\x27' ∨ c = '"'

theorem not_markup_of_all {cs : List Char} (h : cs.all (fun c => !isMarkup c) = true) :
    ∀ c ∈ cs, isMarkup c = false := by
  intro c hc
  simpa using List.all_eq_true.1 h c hc

theorem escapeChar_of_not_markup {c : Char} (h : isMarkup c = false) : escapeChar c = [c] := by
  simp only [isMarkup, decide_eq_false_iff_not, not_or] at h
  simp [escapeChar, h]

theorem escape_cons (c : Char) (cs : List Char) : escape (c :: cs) = escapeChar c ++ escape cs :=
  rfl

theorem escape_of_not_markup {cs : List Char} (h : ∀ c ∈ cs, isMarkup c = false) :
    escape cs = cs := by
  induction cs with
  | nil => rfl
  | cons c cs ih =>
    rw [escape_cons, escapeChar_of_not_markup (h c (by simp)),
      ih fun d hd => h d (by simp [hd])]
    rfl

/-- A character is written as it is, or as a reference to it from its sign to its
semicolon. -/
theorem escapeChar_cases (c : Char) :
    (isMarkup c = false ∧ escapeChar c = [c]) ∨
      ∃ name, escapeChar c = '&' :: (name ++ [';']) ∧ (∀ x ∈ name, isMarkup x = false) ∧
        ';' ∉ name ∧ reference? name = some c := by
  by_cases hc : isMarkup c = false
  · exact Or.inl ⟨hc, escapeChar_of_not_markup hc⟩
  right
  simp only [isMarkup, Bool.not_eq_false, decide_eq_true_eq] at hc
  rcases hc with rfl | rfl | rfl | rfl | rfl
  · exact ⟨['l', 't'], by decide, not_markup_of_all (by decide), by decide, by decide⟩
  · exact ⟨['g', 't'], by decide, not_markup_of_all (by decide), by decide, by decide⟩
  · exact ⟨['a', 'm', 'p'], by decide, not_markup_of_all (by decide), by decide, by decide⟩
  · exact ⟨['a', 'p', 'o', 's'], by decide, not_markup_of_all (by decide), by decide, by decide⟩
  · exact ⟨['q', 'u', 'o', 't'], by decide, not_markup_of_all (by decide), by decide, by decide⟩

theorem not_markup_of_mem_escape {cs : List Char} {d : Char} (h : d ∈ escape cs) :
    d = '&' ∨ isMarkup d = false := by
  obtain ⟨c, -, hd⟩ := List.mem_flatMap.1 h
  rcases escapeChar_cases c with ⟨hc, he⟩ | ⟨name, he, hname, -⟩
  · rw [he, List.mem_singleton] at hd
    exact Or.inr (hd ▸ hc)
  · rw [he, List.mem_cons, List.mem_append, List.mem_singleton] at hd
    rcases hd with rfl | hd | rfl
    · exact Or.inl rfl
    · exact Or.inr (hname d hd)
    · exact Or.inr (by decide)

theorem not_mem_escape {d : Char} (hd : isMarkup d = true) (ha : d ≠ '&') (cs : List Char) :
    d ∉ escape cs := by
  intro h
  rcases not_markup_of_mem_escape h with e | e
  · exact ha e
  · rw [hd] at e
    contradiction

theorem unescapeFrom_name {name : List Char} (hname : ∀ x ∈ name, isMarkup x = false)
    (hend : ';' ∉ name) (body rest : List Char) :
    unescapeFrom (some body) (name ++ ';' :: rest) =
      unescapeFrom (some (name.reverse ++ body)) (';' :: rest) := by
  induction name generalizing body with
  | nil => rfl
  | cons c name ih =>
    rw [List.mem_cons, not_or] at hend
    rw [List.forall_mem_cons] at hname
    have hsign : c ≠ '&' := by
      rintro rfl
      exact absurd hname.1 (by decide)
    rw [List.cons_append, unescapeFrom, if_neg (Ne.symm hend.1), if_neg hsign,
      ih hname.2 hend.2, List.reverse_cons, List.append_assoc, List.singleton_append]

theorem unescapeFrom_reference {body : List Char} {c : Char}
    (hbody : ∀ x ∈ body, isMarkup x = false) (hend : ';' ∉ body) (hbody? : reference? body = some c)
    (rest : List Char) :
    unescapeFrom none ('&' :: (body ++ [';']) ++ rest) = (unescapeFrom none rest).map (c :: ·) := by
  rw [List.cons_append, List.append_assoc, List.singleton_append, unescapeFrom, if_pos rfl,
    unescapeFrom_name hbody hend, List.append_nil, unescapeFrom, if_pos rfl, List.reverse_reverse,
    hbody?]
  exact (Option.map_eq_bind ..).symm

theorem unescapeFrom_escapeChar (c : Char) (rest : List Char) :
    unescapeFrom none (escapeChar c ++ rest) = (unescapeFrom none rest).map (c :: ·) := by
  rcases escapeChar_cases c with ⟨hc, he⟩ | ⟨name, he, hname, hend, hreference⟩
  · have hsign : c ≠ '&' := by
      rintro rfl
      exact absurd hc (by decide)
    rw [he, List.singleton_append, unescapeFrom, if_neg hsign]
  · rw [he]
    exact unescapeFrom_reference hname hend hreference rest

theorem unescape_escape (cs : List Char) : unescape (escape cs) = some cs := by
  unfold unescape
  induction cs with
  | nil => rfl
  | cons c cs ih =>
    rw [escape_cons, unescapeFrom_escapeChar, ih]
    rfl

theorem not_markup_of_blank {c : Char} (h : isMarkupBlank c = true) : isMarkup c = false := by
  simp only [isMarkupBlank, Bool.or_eq_true, beq_iff_eq] at h
  rcases h with ((rfl | rfl) | rfl) | rfl <;> decide

/-- Where what is to be dropped is written as one character to be dropped, and
nothing else is written as a text that begins with one, dropping comes before or
after writing. -/
theorem dropWhile_flatMap {α : Type} {p : Char → Bool} {q : α → Bool} {f : α → List Char}
    (hdropped : ∀ a, q a = true → ∃ c, f a = [c] ∧ p c = true)
    (hhead : ∀ a, q a = false → ∃ d ds, f a = d :: ds ∧ p d = false) (as : List α) :
    (as.flatMap f).dropWhile p = (as.dropWhile q).flatMap f := by
  induction as with
  | nil => rfl
  | cons a as ih =>
    rw [List.flatMap_cons]
    cases ha : q a with
    | true =>
      obtain ⟨c, hf, hc⟩ := hdropped a ha
      rw [hf, List.singleton_append, List.dropWhile_cons_of_pos hc, List.dropWhile_cons_of_pos ha]
      exact ih
    | false =>
      obtain ⟨d, ds, hf, hd⟩ := hhead a ha
      rw [List.dropWhile_cons_of_neg (by simp [ha]), List.flatMap_cons, hf, List.cons_append,
        List.dropWhile_cons_of_neg (by simp [hd])]

theorem trimList_flatMap {α : Type} {p : Char → Bool} {q : α → Bool} {f : α → List Char}
    (hdropped : ∀ a, q a = true → ∃ c, f a = [c] ∧ p c = true)
    (hhead : ∀ a, q a = false → ∃ d ds, f a = d :: ds ∧ p d = false)
    (hlast : ∀ a, q a = false → ∃ d ds, f a = ds ++ [d] ∧ p d = false) (as : List α) :
    Text.trimList p (as.flatMap f) = ((as.dropWhile q).rdropWhile q).flatMap f := by
  -- read backwards a text begins with its last character
  have hback := dropWhile_flatMap (p := p) (q := q) (f := List.reverse ∘ f)
    (fun a ha => by
      obtain ⟨c, hf, hc⟩ := hdropped a ha
      exact ⟨c, by rw [Function.comp_apply, hf]; rfl, hc⟩)
    (fun a ha => by
      obtain ⟨d, ds, hf, hd⟩ := hlast a ha
      exact ⟨d, ds.reverse, by simp [hf], hd⟩)
  unfold Text.trimList Text.dropEndWhile List.rdropWhile
  rw [dropWhile_flatMap hdropped hhead, List.reverse_flatMap, hback, List.reverse_flatMap]
  congr 1
  funext a
  simp

theorem trimList_escape (cs : List Char) :
    Text.trimList isMarkupBlank (escape cs) = escape (Text.trimList isMarkupBlank cs) := by
  refine trimList_flatMap (q := isMarkupBlank) ?_ ?_ ?_ cs
  · intro c hc
    exact ⟨c, escapeChar_of_not_markup (not_markup_of_blank hc), hc⟩
  · intro c hc
    rcases escapeChar_cases c with ⟨-, h⟩ | ⟨name, h, -⟩
    · exact ⟨c, [], h, hc⟩
    · exact ⟨'&', name ++ [';'], h, by decide⟩
  · intro c hc
    rcases escapeChar_cases c with ⟨-, h⟩ | ⟨name, h, -⟩
    · exact ⟨c, [], h, hc⟩
    · exact ⟨';', '&' :: name, by simp [h], by decide⟩

end OrgPipeline.Xml
