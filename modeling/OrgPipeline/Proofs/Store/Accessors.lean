import OrgPipeline.Proofs.Decimal.Plain
import OrgPipeline.Store

/-!
# What the accessors answer

The text of a parameter is a literal, or it refers to a text that is taken as it is. An
accessor answers with the value that this text denotes and leaves the store alone, or it
answers with its default. Every default is told in one diagnostic of the accessor's own
kind, behind another one if the reference is to no known name space, and both show the
parameter as it was written.
-/

set_option autoImplicit false

namespace OrgPipeline

def Param.namesUnknown : Param → Bool
  | .text raw =>
    match Reference.parse raw with
    | some (.unknown _) => true
    | _ => false
  | _ => false

def Param.unknownNotes (p : Param) : List Diagnostic :=
  if p.namesUnknown then [⟨p.scalar, .unknownNamespace⟩] else []

theorem Param.unknownNotes_unknown {raw body : String}
    (h : Reference.parse raw = some (.unknown body)) :
    (Param.text raw).unknownNotes = [⟨raw, .unknownNamespace⟩] := by
  simp [unknownNotes, namesUnknown, scalar, h]

theorem Param.unknownNotes_known {raw : String}
    (h : ∀ body, Reference.parse raw ≠ some (.unknown body)) :
    (Param.text raw).unknownNotes = [] := by
  cases hraw : Reference.parse raw with
  | none => simp [unknownNotes, namesUnknown, hraw]
  | some r =>
    cases r with
    | unknown body => exact absurd hraw (h body)
    | _ => simp [unknownNotes, namesUnknown, hraw]

namespace Store
variable {env : Environment} {s : Store}

def noted (s : Store) (ds : List Diagnostic) : Store :=
  { s with diagnostics := s.diagnostics ++ ds }

@[simp] theorem noted_nil (s : Store) : s.noted [] = s := by
  rw [noted, List.append_nil]

@[simp] theorem noted_noted (s : Store) (ds es : List Diagnostic) :
    (s.noted ds).noted es = s.noted (ds ++ es) := by
  rw [noted, noted, noted, List.append_assoc]

/-- A literal denotes itself, a reference what is found under it: nothing that is found
is taken for a reference again. -/
inductive DenotesText (env : Environment) (s : Store) (raw : String) : String → Prop
  | literal (h : Reference.isReference raw = false) : DenotesText env s raw raw
  | found {r : Reference} {text : String} (hraw : Reference.parse raw = some r)
      (htext : s.lookup env r = some text) : DenotesText env s raw text

def meaning (env : Environment) (s : Store) (raw : String) : Option String :=
  match Reference.parse raw with
  | none => some raw
  | some r => s.lookup env r

theorem denotesText_iff {raw text : String} :
    s.DenotesText env raw text ↔ s.meaning env raw = some text := by
  constructor
  · rintro (h | ⟨hraw, htext⟩)
    · rw [Reference.isReference_eq, Option.isSome_eq_false_iff, Option.isNone_iff_eq_none] at h
      rw [meaning, h]
    · rw [meaning, hraw]
      exact htext
  · intro h
    unfold meaning at h
    split at h
    · next hraw =>
      cases h
      apply DenotesText.literal
      rw [Reference.isReference_eq, hraw]
      rfl
    · next r hraw => exact .found hraw h

theorem resolve_eq (env : Environment) (raw : String) (s : Store) :
    resolve env raw s = (s.meaning env raw, s.noted (Param.text raw).unknownNotes) := by
  unfold resolve meaning
  cases hraw : Reference.parse raw with
  | none =>
    rw [Param.unknownNotes_known (by simp [hraw]), noted_nil]
    rfl
  | some r =>
    cases r with
    | unknown body =>
      rw [Param.unknownNotes_unknown hraw]
      rfl
    | _ =>
      rw [Param.unknownNotes_known (by simp [hraw]), noted_nil]
      rfl

def scalarMeaning (env : Environment) (s : Store) : Param → Option String
  | .text raw => s.meaning env raw
  | p => some p.scalar

theorem scalarOf_eq (env : Environment) (p : Param) (s : Store) :
    scalarOf env p s = (s.scalarMeaning env p, s.noted p.unknownNotes) := by
  cases p with
  | text raw => exact resolve_eq env raw s
  | bool b => exact Prod.ext rfl (noted_nil s).symm
  | number x => exact Prod.ext rfl (noted_nil s).symm

/-- A number denotes itself, and a text the number that it reads as without the blanks
around it. -/
inductive DenotesNumber (env : Environment) (s : Store) : Param → Float → Prop
  | literal (x : Float) : DenotesNumber env s (.number x) x
  | read {raw text : String} {x : Float} (htext : s.DenotesText env raw text)
      (hread : Decimal.read (Text.trim text) = some x) (hnumber : x.isNaN = false) :
      DenotesNumber env s (.text raw) x

inductive DenotesBool (env : Environment) (s : Store) : Param → Bool → Prop
  | literal (b : Bool) : DenotesBool env s (.bool b) b
  | spelled {raw text : String} {b : Bool} (htext : s.DenotesText env raw text)
      (hletters : text.toList.map Char.toLower = (Param.boolText b).toList) :
      DenotesBool env s (.text raw) b

def number? (env : Environment) (s : Store) : Param → Option Float
  | .number x => some x
  | p => numberIn (s.scalarMeaning env p)

def bool? (env : Environment) (s : Store) : Param → Option Bool
  | .bool b => some b
  | p => boolIn (s.scalarMeaning env p)

theorem numberIn_eq_some {text : Option String} {x : Float} :
    numberIn text = some x ↔
      ∃ t, text = some t ∧ Decimal.read (Text.trim t) = some x ∧ x.isNaN = false := by
  simp only [numberIn, Option.bind_eq_bind, Option.bind_eq_some_iff]
  constructor
  · rintro ⟨t, rfl, y, hy, hnumber⟩
    split at hnumber
    · cases hnumber
    · next hnan =>
      cases hnumber
      exact ⟨t, rfl, hy, eq_false_of_ne_true hnan⟩
  · rintro ⟨t, rfl, hx, hnan⟩
    exact ⟨t, rfl, x, hx, if_neg (ne_true_of_eq_false hnan)⟩

theorem boolText_ordinary (b : Bool) : ∀ c ∈ (Param.boolText b).toList, Text.IsOrdinary c := by
  have hall : (Param.boolText b).toList.all (Text.IsOrdinary ·) = true := by
    cases b <;> decide
  exact List.all_iff_forall_prop.1 hall

theorem boolIn_eq_some {text : Option String} {b : Bool} :
    boolIn text = some b ↔
      ∃ t, text = some t ∧ t.toList.map Char.toLower = (Param.boolText b).toList := by
  simp only [boolIn, Option.bind_eq_bind, Option.bind_eq_some_iff,
    ← Text.lowercase_eq_iff (boolText_ordinary b)]
  apply exists_congr
  intro t
  apply and_congr_right
  rintro -
  by_cases htrue : Text.lowercase t = "true"
  · cases b <;> simp [htrue, Param.boolText]
  · by_cases hfalse : Text.lowercase t = "false"
    · cases b <;> simp [hfalse, Param.boolText]
    · cases b <;> simp [htrue, hfalse, Param.boolText]

theorem read_boolText (b : Bool) : Decimal.read (Text.trim (Param.boolText b)) = none := by
  have hnone : (Decimal.read (Text.trim (Param.boolText b))).isNone = true := by
    cases b <;> decide +kernel
  exact Option.isNone_iff_eq_none.1 hnone

theorem denotesNumber_iff {p : Param} {x : Float} :
    s.DenotesNumber env p x ↔ s.number? env p = some x := by
  cases p with
  | number y =>
    constructor
    · rintro ⟨⟩
      rfl
    · intro h
      cases h
      exact .literal _
  | bool b =>
    constructor
    · rintro ⟨⟩
    · intro h
      obtain ⟨t, ht, hread, -⟩ := numberIn_eq_some.1 h
      cases ht
      rw [Param.scalar, read_boolText] at hread
      cases hread
  | text raw =>
    constructor
    · rintro (- | ⟨htext, hread, hnumber⟩)
      exact numberIn_eq_some.2 ⟨_, denotesText_iff.1 htext, hread, hnumber⟩
    · intro h
      obtain ⟨t, ht, hread, hnumber⟩ := numberIn_eq_some.1 h
      exact .read (denotesText_iff.2 ht) hread hnumber

theorem denotesBool_iff {p : Param} {b : Bool} :
    s.DenotesBool env p b ↔ s.bool? env p = some b := by
  cases p with
  | bool c =>
    constructor
    · rintro ⟨⟩
      rfl
    · intro h
      cases h
      exact .literal _
  | number x =>
    constructor
    · rintro ⟨⟩
    · intro h
      obtain ⟨t, ht, hletters⟩ := boolIn_eq_some.1 h
      cases ht
      exact absurd hletters (Param.not_spelled_numberText x b)
  | text raw =>
    constructor
    · rintro (- | ⟨htext, hletters⟩)
      exact boolIn_eq_some.2 ⟨_, denotesText_iff.1 htext, hletters⟩
    · intro h
      obtain ⟨t, ht, hletters⟩ := boolIn_eq_some.1 h
      exact .spelled (denotesText_iff.2 ht) hletters

def fallbackNotes (p : Param) (kind : DiagnosticKind) : List Diagnostic :=
  p.unknownNotes ++ [⟨p.scalar, kind⟩]

inductive Answered {α : Type} (s : Store) (Denotes : α → Prop) (fallback : α) (p : Param)
    (kind : DiagnosticKind) : α × Store → Prop
  | given {v : α} (h : Denotes v) : Answered s Denotes fallback p kind (v, s)
  | fellBack (h : ∀ v, ¬ Denotes v) :
      Answered s Denotes fallback p kind (fallback, s.noted (fallbackNotes p kind))

def answer {α : Type} (s : Store) (value : Option α) (fallback : α) (p : Param)
    (kind : DiagnosticKind) : α × Store :=
  match value with
  | some v => (v, s)
  | none => (fallback, s.noted (fallbackNotes p kind))

theorem answered_answer {α : Type} {Denotes : α → Prop} {value : Option α}
    (h : ∀ v, Denotes v ↔ value = some v) (s : Store) (fallback : α) (p : Param)
    (kind : DiagnosticKind) :
    Answered s Denotes fallback p kind (s.answer value fallback p kind) := by
  cases value with
  | some v => exact .given ((h v).2 rfl)
  | none =>
    apply Answered.fellBack
    intro v hv
    cases (h v).1 hv

theorem answer_store {α : Type} {value : Option α} {FallsBack : Prop} [Decidable FallsBack]
    (h : FallsBack ↔ value.isNone = true) (s : Store) (fallback : α) (p : Param)
    (kind : DiagnosticKind) :
    (s.answer value fallback p kind).2 =
      s.noted (if FallsBack then fallbackNotes p kind else []) := by
  cases value with
  | some v =>
    rw [if_neg (fun hfalls => Bool.noConfusion (h.1 hfalls)), noted_nil]
    rfl
  | none =>
    rw [if_pos (h.2 rfl)]
    rfl

theorem unknownNotes_of_meaning {p : Param} {text : String}
    (h : s.scalarMeaning env p = some text) : p.unknownNotes = [] := by
  cases p with
  | text raw =>
    apply Param.unknownNotes_known
    intro body hraw
    have hmeaning : s.meaning env raw = some text := h
    rw [meaning, hraw] at hmeaning
    cases hmeaning
  | _ => rfl

theorem textValue_eq (env : Environment) (raw : String) (s : Store) :
    textValue env raw s = s.answer (s.meaning env raw) "" raw .unresolved := by
  simp only [textValue, bind, StateT.bind, resolve_eq]
  cases h : s.meaning env raw with
  | some text =>
    rw [unknownNotes_of_meaning (p := .text raw) h, noted_nil]
    rfl
  | none => exact Prod.ext rfl (noted_noted s _ _)

theorem numberValue_eq (env : Environment) (p : Param) (s : Store) :
    numberValue env p s = s.answer (s.number? env p) (Decimal.ofNat 0) p .notANumber := by
  unfold numberValue number?
  split
  · rfl
  · simp only [bind, StateT.bind, scalarOf_eq]
    cases h : numberIn (s.scalarMeaning env p) with
    | some x =>
      obtain ⟨t, ht, -⟩ := numberIn_eq_some.1 h
      rw [unknownNotes_of_meaning ht, noted_nil]
      rfl
    | none => exact Prod.ext rfl (noted_noted s _ _)

theorem boolValue_eq (env : Environment) (p : Param) (s : Store) :
    boolValue env p s = s.answer (s.bool? env p) false p .notABoolean := by
  unfold boolValue bool?
  split
  · rfl
  · simp only [bind, StateT.bind, scalarOf_eq]
    cases h : boolIn (s.scalarMeaning env p) with
    | some b =>
      obtain ⟨t, ht, -⟩ := boolIn_eq_some.1 h
      rw [unknownNotes_of_meaning ht, noted_nil]
      rfl
    | none => exact Prod.ext rfl (noted_noted s _ _)

theorem textValue_answered (env : Environment) (raw : String) (s : Store) :
    Answered s (s.DenotesText env raw) "" raw .unresolved (textValue env raw s) := by
  rw [textValue_eq]
  exact answered_answer (fun _ => denotesText_iff) _ _ _ _

theorem numberValue_answered (env : Environment) (p : Param) (s : Store) :
    Answered s (s.DenotesNumber env p) (Decimal.ofNat 0) p .notANumber
      (numberValue env p s) := by
  rw [numberValue_eq]
  exact answered_answer (fun _ => denotesNumber_iff) _ _ _ _

theorem boolValue_answered (env : Environment) (p : Param) (s : Store) :
    Answered s (s.DenotesBool env p) false p .notABoolean (boolValue env p s) := by
  rw [boolValue_eq]
  exact answered_answer (fun _ => denotesBool_iff) _ _ _ _

theorem optionalNumber_answered (env : Environment) (p : Param) (s : Store) :
    Answered s (fun value => ∃ x, value = some x ∧ s.DenotesNumber env p x)
      (some (Decimal.ofNat 0)) p .notANumber (optionalNumber env (some p) s) := by
  have hsome : optionalNumber env (some p) s =
      (some (numberValue env p s).1, (numberValue env p s).2) := rfl
  have hnumber := numberValue_answered env p s
  rw [hsome]
  generalize numberValue env p s = ended at hnumber ⊢
  cases hnumber with
  | given h => exact .given ⟨_, rfl, h⟩
  | fellBack h =>
    apply Answered.fellBack
    rintro - ⟨x, -, hx⟩
    exact h x hx

end Store
end OrgPipeline
