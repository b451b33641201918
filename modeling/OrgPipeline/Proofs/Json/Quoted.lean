import OrgPipeline.Json.Printer
import OrgPipeline.Json.Reader

/-!
# Texts in quotes

Behind the opening quote a character stands for itself, or an escape stands for it; a
quote that is not escaped ends the text. The reader takes exactly the texts of this form,
and the printer writes one of them.
-/

set_option autoImplicit false

namespace OrgPipeline.Json

/-- What stands behind a backslash, the character that it is written for, and the rest. A
character may be given by its UTF-16 code, in one unit or in two. -/
inductive Escape : List Char → Char → List Char → Prop
  | itself {c : Char} (rest : List Char) (h : c = '"' ∨ c = '\\' ∨ c = '/') :
    Escape (c :: rest) c rest
  | backspace (rest : List Char) : Escape ('b' :: rest) '\x08' rest
  | formFeed (rest : List Char) : Escape ('f' :: rest) '\x0c' rest
  | lineFeed (rest : List Char) : Escape ('n' :: rest) '\n' rest
  | carriageReturn (rest : List Char) : Escape ('r' :: rest) '\r' rest
  | tab (rest : List Char) : Escape ('t' :: rest) '\t' rest
  | unit {cs rest : List Char} {n : Nat} (digits : hexUnit? cs = some (n, rest))
    (single : isHighUnit n = false ∧ isLowUnit n = false) :
    Escape ('u' :: cs) (Char.ofNat n) rest
  | units {cs mid rest : List Char} {high low : Nat}
    (first : hexUnit? cs = some (high, '\\' :: 'u' :: mid)) (hhigh : isHighUnit high = true)
    (second : hexUnit? mid = some (low, rest)) (hlow : isLowUnit low = true) :
    Escape ('u' :: cs)
      (Char.ofNat ((high - 0xD800) * 1024 + (low - 0xDC00) + 0x10000)) rest

/-- What stands behind the opening quote, the text that it is written for, and what stands
behind the closing quote. -/
inductive Quoted : List Char → List Char → List Char → Prop
  | close (rest : List Char) : Quoted ('"' :: rest) [] rest
  | plain {c : Char} {cs s rest : List Char} (quote : c ≠ '"') (backslash : c ≠ '\\')
    (control : 0x20 ≤ c.toNat) (h : Quoted cs s rest) : Quoted (c :: cs) (c :: s) rest
  | escaped {c : Char} {cs mid s rest : List Char} (hc : Escape cs c mid)
    (h : Quoted mid s rest) : Quoted ('\\' :: cs) (c :: s) rest

theorem isLowUnit_of_isHighUnit {n : Nat} (h : isHighUnit n = true) : isLowUnit n = false := by
  simp only [isHighUnit, isLowUnit, Bool.and_eq_true, decide_eq_true_eq, Bool.and_eq_false_iff,
    decide_eq_false_iff_not] at *
  omega

theorem unitChar?_eq_some_iff {cs rest : List Char} {c : Char} :
    unitChar? cs = some (c, rest) ↔ Escape ('u' :: cs) c rest := by
  constructor
  · intro h
    obtain ⟨⟨n, mid⟩, hn, h⟩ := Option.bind_eq_some_iff.1 h
    dsimp only at h
    by_cases hlow : isLowUnit n = true
    · rw [if_pos hlow] at h
      cases h
    · rw [if_neg hlow] at h
      by_cases hhigh : isHighUnit n = true
      · rw [if_pos hhigh] at h
        split at h
        · obtain ⟨⟨low, after⟩, hsecond, h⟩ := Option.bind_eq_some_iff.1 h
          dsimp only at h
          split at h
          · next hlow' =>
            rw [Option.some.injEq, Prod.mk.injEq] at h
            obtain ⟨rfl, rfl⟩ := h
            exact .units hn hhigh hsecond hlow'
          · cases h
        · cases h
      · rw [if_neg hhigh] at h
        cases h
        exact .unit hn ⟨by simpa using hhigh, by simpa using hlow⟩
  · intro h
    cases h with
    | itself rest h => simp at h
    | unit digits single => simp [unitChar?, digits, single.1, single.2]
    | units first hhigh second hlow =>
      simp [unitChar?, first, hhigh, second, hlow, isLowUnit_of_isHighUnit hhigh]

theorem escaped?_eq_some_iff {cs rest : List Char} {c : Char} :
    escaped? cs = some (c, rest) ↔ Escape cs c rest := by
  constructor
  · intro h
    unfold escaped? at h
    split at h
    · cases h
    · next d cs =>
      split at h
      · next hd =>
        cases h
        exact .itself _ hd
      · split at h
        · next hd => subst hd; cases h; exact .backspace _
        · split at h
          · next hd => subst hd; cases h; exact .formFeed _
          · split at h
            · next hd => subst hd; cases h; exact .lineFeed _
            · split at h
              · next hd => subst hd; cases h; exact .carriageReturn _
              · split at h
                · next hd => subst hd; cases h; exact .tab _
                · split at h
                  · next hd =>
                    subst hd
                    exact unitChar?_eq_some_iff.1 h
                  · cases h
  · intro h
    cases h with
    | itself rest h => rw [escaped?, if_pos h]
    | unit digits single => exact unitChar?_eq_some_iff.2 (.unit digits single)
    | units first hhigh second hlow =>
      exact unitChar?_eq_some_iff.2 (.units first hhigh second hlow)
    | _ => rfl

theorem length_hexUnit? {cs rest : List Char} {n : Nat} (h : hexUnit? cs = some (n, rest)) :
    rest.length < cs.length := by
  unfold hexUnit? at h
  split at h
  · simp only [Option.bind_eq_bind, Option.bind_eq_some_iff, Option.some.injEq,
      Prod.mk.injEq] at h
    obtain ⟨-, -, -, -, -, -, -, -, -, rfl⟩ := h
    simp only [List.length_cons]
    omega
  · cases h

theorem Escape.length_lt {cs rest : List Char} {c : Char} (h : Escape cs c rest) :
    rest.length < cs.length := by
  cases h with
  | unit digits single =>
    have hlength := length_hexUnit? digits
    simp only [List.length_cons]
    omega
  | units first hhigh second hlow =>
    have hfirst := length_hexUnit? first
    have hsecond := length_hexUnit? second
    simp only [List.length_cons] at *
    omega
  | _ => simp

theorem Quoted.length_lt {cs s rest : List Char} (h : Quoted cs s rest) :
    rest.length < cs.length := by
  induction h with
  | close rest => simp
  | plain _ _ _ _ ih =>
    simp only [List.length_cons]
    omega
  | escaped hc _ ih =>
    have hlength := hc.length_lt
    simp only [List.length_cons]
    omega

theorem quoted_of_stringTail? {fuel : Nat} {cs s rest : List Char}
    (h : stringTail? fuel cs = some (s, rest)) : Quoted cs s rest := by
  induction fuel generalizing cs s with
  | zero => cases h
  | succ fuel ih =>
    cases cs with
    | nil => cases h
    | cons c cs =>
      rw [stringTail?] at h
      by_cases hquote : c = '"'
      · subst hquote
        cases h
        exact .close _
      · rw [if_neg hquote] at h
        by_cases hbackslash : c = '\\'
        · subst hbackslash
          obtain ⟨⟨d, mid⟩, hd, h⟩ := Option.bind_eq_some_iff.1 h
          obtain ⟨⟨s', rest'⟩, htail, h⟩ := Option.bind_eq_some_iff.1 h
          cases h
          exact .escaped (escaped?_eq_some_iff.1 hd) (ih htail)
        · rw [if_neg hbackslash] at h
          by_cases hcontrol : c.toNat < 0x20
          · rw [if_pos hcontrol] at h
            cases h
          · rw [if_neg hcontrol] at h
            obtain ⟨⟨s', rest'⟩, htail, h⟩ := Option.bind_eq_some_iff.1 h
            cases h
            exact .plain hquote hbackslash (by omega) (ih htail)

theorem Quoted.stringTail? {cs s rest : List Char} (h : Quoted cs s rest) {fuel : Nat}
    (hfuel : cs.length < fuel) : stringTail? fuel cs = some (s, rest) := by
  induction h generalizing fuel with
  | close rest =>
    cases fuel with
    | zero => omega
    | succ fuel => rfl
  | @plain c cs s rest quote backslash control _ ih =>
    cases fuel with
    | zero => omega
    | succ fuel =>
      rw [List.length_cons] at hfuel
      rw [Json.stringTail?, if_neg quote, if_neg backslash, if_neg (by omega),
        ih (by omega)]
      rfl
  | @escaped c cs mid s rest hc _ ih =>
    cases fuel with
    | zero => omega
    | succ fuel =>
      have hlength := hc.length_lt
      rw [List.length_cons] at hfuel
      rw [Json.stringTail?, if_neg (by decide), if_pos rfl, escaped?_eq_some_iff.2 hc]
      dsimp only [bind, Option.bind]
      rw [ih (by omega)]

theorem string?_eq_some_iff {cs rest : List Char} {s : String} :
    string? cs = some (s, rest) ↔ ∃ inside, cs = '"' :: inside ∧ Quoted inside s.toList rest := by
  constructor
  · intro h
    unfold string? at h
    split at h
    · next inside =>
      obtain ⟨⟨chars, after⟩, htail, h⟩ := Option.map_eq_some_iff.1 h
      cases h
      refine ⟨inside, rfl, ?_⟩
      rw [String.toList_ofList]
      exact quoted_of_stringTail? htail
    · cases h
  · rintro ⟨inside, rfl, h⟩
    rw [string?, h.stringTail? (Nat.lt_succ_self _)]
    change some (String.ofList s.toList, rest) = _
    rw [String.ofList_toList]

theorem hexValue?_lowerHexDigit : ∀ n < 16, hexValue? (lowerHexDigit n) = some n := by decide

theorem escape_control {c : Char} (h : c.toNat < 0x20) (rest : List Char) :
    Escape ('u' :: '0' :: '0' :: lowerHexDigit (c.toNat / 16) :: lowerHexDigit (c.toNat % 16) ::
      rest) c rest := by
  have hzero : hexValue? '0' = some 0 := by decide
  have hdigits : hexUnit? ('0' :: '0' :: lowerHexDigit (c.toNat / 16) ::
      lowerHexDigit (c.toNat % 16) :: rest) = some (c.toNat, rest) := by
    rw [hexUnit?, hzero, hexValue?_lowerHexDigit _ (by omega),
      hexValue?_lowerHexDigit _ (by omega)]
    simp only [Option.bind_eq_bind, Option.bind_some, Option.some.injEq, Prod.mk.injEq, and_true]
    omega
  have hsingle : isHighUnit c.toNat = false ∧ isLowUnit c.toNat = false := by
    simp only [isHighUnit, isLowUnit, Bool.and_eq_false_iff, decide_eq_false_iff_not]
    omega
  have hescape := Escape.unit hdigits hsingle
  rwa [Char.ofNat_toNat] at hescape

/-- One character as it is printed, ahead of others. -/
theorem Quoted.escapeChar {cs s rest : List Char} (h : Quoted cs s rest) (c : Char) :
    Quoted (Json.escapeChar c ++ cs) (c :: s) rest := by
  unfold Json.escapeChar
  split
  · next hc => subst hc; exact .escaped (.itself _ (by decide)) h
  · next hquote =>
    split
    · next hc => subst hc; exact .escaped (.itself _ (by decide)) h
    · next hbackslash =>
      split
      · next hc => subst hc; exact .escaped (.backspace _) h
      · split
        · next hc => subst hc; exact .escaped (.tab _) h
        · split
          · next hc => subst hc; exact .escaped (.lineFeed _) h
          · split
            · next hc => subst hc; exact .escaped (.formFeed _) h
            · split
              · next hc => subst hc; exact .escaped (.carriageReturn _) h
              · split
                · next hcontrol => exact .escaped (escape_control hcontrol cs) h
                · next hplain => exact .plain hquote hbackslash (by omega) h

theorem quoted_quotedList (cs rest : List Char) :
    ∃ inside, quotedList cs ++ rest = '"' :: inside ∧ Quoted inside cs rest := by
  refine ⟨cs.flatMap Json.escapeChar ++ '"' :: rest, by simp [quotedList], ?_⟩
  induction cs with
  | nil => exact .close rest
  | cons c cs ih =>
    rw [List.flatMap_cons, List.append_assoc]
    exact ih.escapeChar c

end OrgPipeline.Json
