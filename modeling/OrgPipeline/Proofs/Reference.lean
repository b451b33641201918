import OrgPipeline.Reference
import OrgPipeline.Proofs.Text.Split
import OrgPipeline.Proofs.Text.Trim

/-!
# Writing a reference to a step

The identifier of a step and a path into its record, joined by dots behind the
sign and the name space, are read back as they are, unless a dot in one of them
or a blank at the end would be lost.
-/

set_option autoImplicit false

namespace OrgPipeline.Reference

structure Spelled (id : String) (path : List String) : Prop where
  id_dotless : '.' ∉ id.toList
  nonempty : path ≠ []
  dotless : ∀ segment ∈ path, '.' ∉ segment.toList
  last : ∀ segment, path.getLast? = some segment →
    Text.EndsOutside Text.isBlank segment.toList

theorem spelled_success {id : String} (h : '.' ∉ id.toList) : Spelled id ["success"] := by
  refine ⟨h, by simp, by decide, ?_⟩
  rintro segment ⟨⟩ c ⟨⟩
  decide

def stepText (id : String) (path : List String) : String :=
  "$step." ++ id ++ "." ++ Text.join "." path

theorem endsOutside_join {p : Char → Bool} {sep : Char} (hsep : p sep = false)
    {pieces : List String}
    (h : ∀ piece, pieces.getLast? = some piece → Text.EndsOutside p piece.toList) :
    Text.EndsOutside p (Text.join sep.toString pieces).toList := by
  induction pieces with
  | nil => simp [Text.EndsOutside, Text.join]
  | cons piece pieces ih =>
    by_cases hlast : pieces = []
    · subst hlast
      simpa [Text.join] using h piece rfl
    · rw [Text.toList_join_cons sep piece hlast]
      apply Text.endsOutside_append_cons hsep
      apply ih
      intro other hother
      apply h
      rw [List.getLast?_cons_of_ne_nil hlast, hother]

theorem toList_stepText (id : String) {path : List String} (h : path ≠ []) :
    (stepText id path).toList = sigil :: (stepMark ++ (Text.join "." (id :: path)).toList) := by
  have hjoin := Text.toList_join_cons '.' id h
  have hdot : Char.toString '.' = "." := rfl
  rw [hdot] at hjoin
  simp [stepText, hjoin, sigil, stepMark]

theorem ofStep_join {id : String} {path : List String} (h : Spelled id path) :
    ofStep (Text.join "." (id :: path)).toList = .step id path := by
  have hpieces := Text.splitList_join '.' (List.cons_ne_nil id path)
    (by simpa using ⟨h.id_dotless, h.dotless⟩)
  have hdot : Char.toString '.' = "." := rfl
  rw [hdot] at hpieces
  simp [ofStep, hpieces]

theorem stepMark_eq : stepMark = ['s', 't', 'e', 'p'] ++ ['.'] := by decide

theorem ofBody_step (rest : List Char) : ofBody (stepMark ++ rest) = ofStep rest := by
  have henv : Text.afterList envMark (stepMark ++ rest) = none := rfl
  have hinput : Text.afterList inputMark (stepMark ++ rest) = none := rfl
  have hvariable : Text.afterList variableMark (stepMark ++ rest) = none := rfl
  rw [ofBody, henv, hinput, hvariable, Text.afterList_append]

theorem parseList_sigil {c : Char} {body : List Char} (hc : Text.isBlank c = false)
    (hbrace : c ≠ '\x7b') (hlast : Text.EndsOutside Text.isBlank (c :: body)) :
    parseList (sigil :: c :: body) = some (ofBody (c :: body)) := by
  have hraw : Text.EndsOutside Text.isBlank (sigil :: c :: body) :=
    Text.endsOutside_append_cons (by decide) [] hlast
  have hbare : stripBraces (c :: body) = c :: body := by
    unfold stripBraces
    rw [if_neg]
    rintro ⟨-, hbraces, -⟩
    rw [List.take_succ_cons, List.cons.injEq] at hbraces
    exact hbrace hbraces.1
  rw [parseList, Text.trimList_eq_self (by decide) hraw]
  dsimp only
  rw [if_pos rfl, Text.trimList_eq_self hc hlast, hbare]

/-- Whatever the identifier is, behind the mark of a step the text is cut at its
dots. -/
theorem parse_stepText_eq (id : String) {path : List String} (hne : path ≠ [])
    (hlast : ∀ segment, path.getLast? = some segment →
      Text.EndsOutside Text.isBlank segment.toList) :
    parse (stepText id path) = some (ofStep (Text.join "." (id :: path)).toList) := by
  have hdot : Text.isBlank '.' = false := by decide
  have hjoined : Text.EndsOutside Text.isBlank (Text.join "." (id :: path)).toList := by
    apply endsOutside_join hdot
    intro piece hpiece
    rw [List.getLast?_cons_of_ne_nil hne] at hpiece
    exact hlast piece hpiece
  have hbody : Text.EndsOutside Text.isBlank
      (stepMark ++ (Text.join "." (id :: path)).toList) := by
    rw [stepMark_eq, List.append_assoc]
    exact Text.endsOutside_append_cons hdot _ hjoined
  rw [parse, toList_stepText id hne, ← ofBody_step]
  rw [stepMark_eq] at hbody ⊢
  exact parseList_sigil (by decide) (by decide) hbody

theorem parse_stepText {id : String} {path : List String} (h : Spelled id path) :
    parse (stepText id path) = some (.step id path) := by
  rw [parse_stepText_eq id h.nonempty h.last, ofStep_join h]

theorem ofBody_input (rest : List Char) :
    ofBody (inputMark ++ rest) = .input (String.ofList rest) := by
  have henv : Text.afterList envMark (inputMark ++ rest) = none := rfl
  rw [ofBody, henv, Text.afterList_append]

theorem inputMark_eq : inputMark = ['i', 'n', 'p', 'u', 't'] ++ ['.'] := by decide

/-- An input is named by all that follows its mark, dots and blanks included, but for
blanks at the end. -/
theorem parse_inputText {id : String} (h : Text.EndsOutside Text.isBlank id.toList) :
    parse ("$input." ++ id) = some (.input id) := by
  have hbody : Text.EndsOutside Text.isBlank (inputMark ++ id.toList) := by
    rw [inputMark_eq, List.append_assoc]
    exact Text.endsOutside_append_cons (by decide) _ h
  have htext : ("$input." ++ id).toList = sigil :: (inputMark ++ id.toList) := by
    simp [sigil, inputMark]
  have hparsed : some (ofBody (inputMark ++ id.toList)) = some (.input id) := by
    rw [ofBody_input, String.ofList_toList]
  rw [parse, htext, ← hparsed]
  rw [inputMark_eq] at hbody ⊢
  exact parseList_sigil (by decide) (by decide) hbody

theorem ofStep_eq {rest : List Char} {id : String} {path : List String}
    (h : ofStep rest = .step id path) :
    (Text.splitList '.' rest).map String.ofList = id :: path := by
  obtain ⟨piece, others, hpieces⟩ := List.exists_cons_of_ne_nil (Text.splitList_ne_nil '.' rest)
  rw [ofStep, hpieces] at h
  rw [hpieces]
  cases h
  rfl

theorem ofBody_eq_step {body : List Char} {id : String} {path : List String}
    (h : ofBody body = .step id path) : ∃ rest, ofStep rest = .step id path := by
  unfold ofBody at h
  split at h
  · cases h
  · split at h
    · cases h
    · split at h
      · cases h
      · split at h
        · next rest _ => exact ⟨rest, h⟩
        · cases h

theorem id_dotless {raw id : String} {path : List String}
    (h : parse raw = some (.step id path)) : '.' ∉ id.toList := by
  unfold parse parseList at h
  split at h
  · cases h
  · split at h
    · obtain ⟨rest, hrest⟩ := ofBody_eq_step (Option.some.inj h)
      have hpieces := ofStep_eq hrest
      have hmem : id ∈ (Text.splitList '.' rest).map String.ofList := by
        rw [hpieces]
        exact List.mem_cons_self
      obtain ⟨piece, hpiece, rfl⟩ := List.mem_map.1 hmem
      rw [String.toList_ofList]
      exact Text.not_mem_of_mem_splitList hpiece
    · cases h

/-- An identifier with a dot is cut at its first one, and what follows goes to the
path. -/
theorem parse_stepText_dotted {first rest : String} (hfirst : '.' ∉ first.toList)
    {path : List String} (hne : path ≠ []) (hdotless : ∀ segment ∈ path, '.' ∉ segment.toList)
    (hlast : ∀ segment, path.getLast? = some segment →
      Text.EndsOutside Text.isBlank segment.toList) :
    parse (stepText (first ++ "." ++ rest) path) =
      some (.step first (Text.split '.' rest ++ path)) := by
  have hjoin := Text.toList_join_cons '.' (first ++ "." ++ rest) hne
  have hpath := Text.splitList_join '.' hne hdotless
  have hdot : Char.toString '.' = "." := rfl
  rw [hdot] at hjoin hpath
  have hpieces : Text.splitList '.' (Text.join "." ((first ++ "." ++ rest) :: path)).toList =
      first.toList :: (Text.splitList '.' rest.toList ++ path.map String.toList) := by
    rw [hjoin, Text.splitList_append_sep, hpath, String.toList_append, String.toList_append]
    change Text.splitList '.' (first.toList ++ ['.'] ++ rest.toList) ++ _ = _
    rw [List.append_assoc, List.singleton_append, Text.splitList_append_sep,
      Text.splitList_of_not_mem _ _ hfirst]
    rfl
  rw [parse_stepText_eq _ hne hlast, ofStep, hpieces]
  simp [Text.split]

end OrgPipeline.Reference
