import OrgPipeline.Proofs.Reference
import OrgPipeline.Proofs.Text.Boundary

/-!
# Blanks and braces in a reference

A name behind its name space is the same reference with and without braces, and with
any blanks at the ends of the text, behind the sign and inside the braces. Braces are
whole characters at the ends of what they enclose, so that taking them off by octets
cuts no character.
-/

set_option autoImplicit false

namespace OrgPipeline.Reference

inductive Space where
  | env
  | input
  | var
  | step
  deriving DecidableEq, Repr

namespace Space

def mark : Space → String
  | env => "env."
  | input => "input."
  | var => "var."
  | step => "step."

/-- The reference to what has this name in the name space. Of a step the dots divide the
name into the identifier and the path. -/
inductive Names : Space → String → Reference → Prop
  | env (name : String) : Names env name (.env name)
  | input (id : String) : Names input id (.input id)
  | var (id : String) : Names var id (.variable id)
  | step {id : String} {path : List String}
    (dotless : ∀ segment ∈ id :: path, '.' ∉ segment.toList) :
    Names step (Text.join "." (id :: path)) (.step id path)

theorem mark_begins (space : Space) :
    ∃ c cs, space.mark.toList = c :: cs ∧ Text.isBlank c = false ∧ c ≠ '\x7b' := by
  cases space <;> exact ⟨_, _, rfl, by decide, by decide⟩

theorem ofStep_names (name : String) : Names step name (ofStep name.toList) := by
  obtain ⟨id, path, hpieces⟩ :=
    List.exists_cons_of_ne_nil (Text.splitList_ne_nil '.' name.toList)
  have hstep : ofStep name.toList = .step (String.ofList id) (path.map String.ofList) := by
    rw [ofStep, hpieces]
    rfl
  have hjoined : Text.join "." (String.ofList id :: path.map String.ofList) = name := by
    rw [← List.map_cons, ← hpieces]
    exact Text.join_split '.' name
  have hdotless : ∀ segment ∈ String.ofList id :: path.map String.ofList,
      '.' ∉ segment.toList := by
    intro segment hsegment
    rw [← List.map_cons, ← hpieces, List.mem_map] at hsegment
    obtain ⟨piece, hpiece, rfl⟩ := hsegment
    rw [String.toList_ofList]
    exact Text.not_mem_of_mem_splitList hpiece
  have hnames := Names.step hdotless
  rwa [hjoined, ← hstep] at hnames

theorem ofBody_env (rest : List Char) : ofBody (envMark ++ rest) = .env (String.ofList rest) := by
  rw [ofBody, Text.afterList_append]

theorem ofBody_variable (rest : List Char) :
    ofBody (variableMark ++ rest) = .variable (String.ofList rest) := by
  have henv : Text.afterList envMark (variableMark ++ rest) = none := rfl
  have hinput : Text.afterList inputMark (variableMark ++ rest) = none := rfl
  rw [ofBody, henv, hinput, Text.afterList_append]

theorem ofBody_names (space : Space) (name : String) :
    space.Names name (ofBody (space.mark.toList ++ name.toList)) := by
  cases space with
  | env =>
    have hbody := ofBody_env name.toList
    rw [String.ofList_toList] at hbody
    exact hbody ▸ .env name
  | input =>
    have hbody := ofBody_input name.toList
    rw [String.ofList_toList] at hbody
    exact hbody ▸ .input name
  | var =>
    have hbody := ofBody_variable name.toList
    rw [String.ofList_toList] at hbody
    exact hbody ▸ .var name
  | step =>
    have hbody := ofBody_step name.toList
    exact hbody ▸ ofStep_names name

end Space

section
variable {w₁ w₂ w₃ w₄ w₅ body : List Char}

/-- With any blanks at the ends and behind the sign. -/
theorem parseList_spaced (h₁ : w₁.all Text.isBlank = true) (h₂ : w₂.all Text.isBlank = true)
    (h₅ : w₅.all Text.isBlank = true) (hne : body ≠ [])
    (hbegin : ∀ c, body.head? = some c → Text.isBlank c = false)
    (hend : Text.EndsOutside Text.isBlank body) :
    parseList (w₁ ++ sigil :: (w₂ ++ body) ++ w₅) = some (ofBody (stripBraces body)) := by
  have hsigil : Text.isBlank sigil = false := by decide
  have hcore : Text.EndsOutside Text.isBlank (sigil :: (w₂ ++ body)) := by
    intro c hc
    apply hend
    rwa [← List.cons_append, List.getLast?_append_of_ne_nil _ hne] at hc
  have houter : Text.trimList Text.isBlank (w₁ ++ sigil :: (w₂ ++ body) ++ w₅) =
      sigil :: (w₂ ++ body) := by
    apply Text.trimList_padded h₁ h₅ _ hcore
    intro c hc
    cases hc
    exact hsigil
  have hinner : Text.trimList Text.isBlank (w₂ ++ body) = body := by
    have hnothing : ([] : List Char).all Text.isBlank = true := rfl
    have hpadded := Text.trimList_padded h₂ hnothing hbegin hend
    rwa [List.append_nil] at hpadded
  rw [parseList, houter]
  dsimp only
  rw [if_pos rfl, hinner]

theorem stripBraces_bare {c : Char} (hc : c ≠ '\x7b') (rest : List Char) :
    stripBraces (c :: rest) = c :: rest := by
  rw [stripBraces, if_neg]
  rintro ⟨-, hbraces, -⟩
  rw [List.take_succ_cons, List.cons.injEq] at hbraces
  exact hc hbraces.1

def braced (inner : List Char) : List Char := ['\x7b', '\x7b'] ++ inner ++ ['\x7d', '\x7d']

theorem stripBraces_braced (inner : List Char) :
    stripBraces (braced inner) = Text.trimList Text.isBlank inner := by
  have hlength : (braced inner).length = inner.length + 4 := by
    simp [braced]
  have hclosing : (braced inner).drop ((braced inner).length - 2) = ['\x7d', '\x7d'] := by
    rw [hlength]
    exact List.drop_left' (by simp)
  have hinside : ((braced inner).drop 2).take ((braced inner).length - 4) = inner := by
    rw [hlength]
    exact List.take_left' (by simp)
  rw [stripBraces, if_pos ⟨by omega, rfl, hclosing⟩, hinside]

theorem parseList_braced (h₁ : w₁.all Text.isBlank = true) (h₂ : w₂.all Text.isBlank = true)
    (h₃ : w₃.all Text.isBlank = true) (h₄ : w₄.all Text.isBlank = true)
    (h₅ : w₅.all Text.isBlank = true)
    (hbegin : ∀ c, body.head? = some c → Text.isBlank c = false)
    (hend : Text.EndsOutside Text.isBlank body) :
    parseList (w₁ ++ sigil :: (w₂ ++ braced (w₃ ++ body ++ w₄)) ++ w₅) = some (ofBody body) := by
  have hopening : ∀ c, (braced (w₃ ++ body ++ w₄)).head? = some c → Text.isBlank c = false := by
    intro c hc
    cases hc
    decide
  have hclosing : Text.EndsOutside Text.isBlank (braced (w₃ ++ body ++ w₄)) :=
    Text.endsOutside_append_cons (by decide) _
      (Text.endsOutside_append_cons (by decide) [] fun c hc => by cases hc)
  have hne : braced (w₃ ++ body ++ w₄) ≠ [] := by
    simp [braced]
  rw [parseList_spaced h₁ h₂ h₅ hne hopening hclosing, stripBraces_braced,
    Text.trimList_padded h₃ h₄ hbegin hend]

/-- Braces taken off by octets, two at the start and two at the end. Nothing comes of it if
the text cannot be cut there. -/
def stripByOctets (body : List Char) : Option (List Char) :=
  if 4 ≤ Text.octetLength body ∧ ['\x7b', '\x7b'] <+: body ∧ ['\x7d', '\x7d'] <:+ body then
    (Text.slice? 2 (Text.octetLength body - 2) body).map (Text.trimList Text.isBlank)
  else some body

/-- The reference that a text is, if its braces are taken off by octets. Nothing comes of
it if they cannot be. -/
def parseByOctets (raw : String) : Option (Option Reference) :=
  match Text.trimList Text.isBlank raw.toList with
  | [] => some none
  | c :: rest =>
    if c = sigil then
      (stripByOctets (Text.trimList Text.isBlank rest)).map fun body => some (ofBody body)
    else some none

theorem eq_braced (hopening : ['\x7b', '\x7b'] <+: body) (hclosing : ['\x7d', '\x7d'] <:+ body) :
    ∃ inner, body = braced inner := by
  obtain ⟨rest, rfl⟩ := hopening
  change _ <:+ '\x7b' :: '\x7b' :: rest at hclosing
  rw [List.suffix_cons_iff, List.suffix_cons_iff] at hclosing
  rcases hclosing with h | h | ⟨inner, rfl⟩
  · cases h
  · cases h
  · exact ⟨inner, by rw [braced, List.append_assoc]⟩

theorem slice?_braced (inner : List Char) :
    Text.slice? 2 (Text.octetLength (braced inner) - 2) (braced inner) = some inner := by
  apply Text.slice?_eq_some_iff.2
  refine ⟨['\x7b', '\x7b'], ['\x7d', '\x7d'], rfl, by decide, ?_⟩
  have hopening : Text.octetLength ['\x7b', '\x7b'] = 2 := by decide
  have hclosing : Text.octetLength ['\x7d', '\x7d'] = 2 := by decide
  simp only [braced, Text.octetLength_append, hopening, hclosing]
  omega

theorem stripByOctets_eq (body : List Char) : stripByOctets body = some (stripBraces body) := by
  by_cases h : ['\x7b', '\x7b'] <+: body ∧ ['\x7d', '\x7d'] <:+ body
  · obtain ⟨inner, rfl⟩ := eq_braced h.1 h.2
    have hlength : 4 ≤ Text.octetLength (braced inner) := by
      have hbraces : Text.octetLength ['\x7b', '\x7b'] + Text.octetLength ['\x7d', '\x7d'] = 4 := by
        decide
      rw [braced, Text.octetLength_append, Text.octetLength_append]
      omega
    rw [stripByOctets, if_pos ⟨hlength, h⟩, slice?_braced, stripBraces_braced]
    rfl
  · have hbare : ¬ (4 ≤ body.length ∧ body.take 2 = ['\x7b', '\x7b'] ∧
        body.drop (body.length - 2) = ['\x7d', '\x7d']) := by
      rintro ⟨-, hopening, hclosing⟩
      exact h ⟨hopening ▸ List.take_prefix 2 body, hclosing ▸ List.drop_suffix _ body⟩
    rw [stripByOctets, if_neg fun hall => h hall.2, stripBraces, if_neg hbare]

theorem parseByOctets_eq (raw : String) : parseByOctets raw = some (parse raw) := by
  rw [parseByOctets, parse, parseList]
  cases Text.trimList Text.isBlank raw.toList with
  | nil => rfl
  | cons c rest =>
    dsimp only
    by_cases hc : c = sigil
    · rw [if_pos hc, if_pos hc, stripByOctets_eq]
      rfl
    · rw [if_neg hc, if_neg hc]

end

/-- A name behind its mark is one reference, whatever blanks there are and with braces or
without. A text is a reference exactly if it is read as one, and no text is cut inside a
character. -/
theorem parse_spacing (space : Space) (name w₁ w₂ w₃ w₄ w₅ : String)
    (hname : Text.EndsOutside Text.isBlank (space.mark ++ name).toList)
    (h₁ : Text.blank w₁ = true) (h₂ : Text.blank w₂ = true) (h₃ : Text.blank w₃ = true)
    (h₄ : Text.blank w₄ = true) (h₅ : Text.blank w₅ = true) :
    (∃ r, space.Names name r ∧
        parse (w₁ ++ "$" ++ w₂ ++ space.mark ++ name ++ w₅) = some r ∧
        parse (w₁ ++ "$" ++ w₂ ++ "\x7b\x7b" ++ w₃ ++ space.mark ++ name ++ w₄ ++ "\x7d\x7d" ++
          w₅) = some r) ∧
      (∀ raw, isReference raw = true ↔ ∃ r, parse raw = some r) ∧
      ∀ raw, parseByOctets raw = some (parse raw) := by
  obtain ⟨c, cs, hmark, hletter, hbrace⟩ := space.mark_begins
  have hbody : space.mark.toList ++ name.toList = c :: (cs ++ name.toList) := by
    rw [hmark, List.cons_append]
  have hbegin : ∀ d, (space.mark.toList ++ name.toList).head? = some d →
      Text.isBlank d = false := by
    intro d hd
    rw [hbody] at hd
    cases hd
    exact hletter
  rw [String.toList_append] at hname
  refine ⟨⟨_, space.ofBody_names name, ?_, ?_⟩, ?_, parseByOctets_eq⟩
  · have hbare := parseList_spaced h₁ h₂ h₅ (by simp [hbody]) hbegin hname
    rw [hbody, stripBraces_bare hbrace, ← hbody] at hbare
    rw [parse, ← hbare]
    simp [sigil]
  · rw [parse, ← parseList_braced h₁ h₂ h₃ h₄ h₅ hbegin hname]
    simp [sigil, braced]
  · intro raw
    rw [isReference_eq, Option.isSome_iff_exists]

/-- The name ends in braces of its own, and not all blanks and letters are of one octet. -/
theorem parse_spacing_nested :
    ∃ r, Space.step.Names "größe.x\x7d\x7d" r ∧
      parse "\u2003$ step.größe.x\x7d\x7d\n" = some r ∧
      parse "\u2003$ \x7b\x7b\u00a0step.größe.x\x7d\x7d\t\x7d\x7d\n" = some r := by
  have hname : Text.EndsOutside Text.isBlank (Space.step.mark ++ "größe.x\x7d\x7d").toList := by
    intro c hc
    cases hc
    decide
  exact (parse_spacing .step "größe.x\x7d\x7d" "\u2003" " " "\u00a0" "\t" "\n" hname
    (by decide) (by decide) (by decide) (by decide) (by decide)).1

end OrgPipeline.Reference
