import OrgPipeline.Text.Blank
import OrgPipeline.Text.Split

/-!
# Cutting markup into pieces

A text is a sequence of pieces: tags, comments, sections, declarations, and
the character data between them, which is trimmed of markup blanks at both
ends and left out when nothing remains.
-/

set_option autoImplicit false

namespace OrgPipeline.Xml

open Text (isMarkupBlank)

/-- One piece, its delimiters taken off. -/
inductive Piece where
  | data (raw : List Char)
  | openTag (content : List Char)
  | emptyTag (content : List Char)
  | closeTag (content : List Char)
  | characters (content : List Char)
  | declaration (content : List Char)
  /-- A comment, a processing instruction or a document type. -/
  | aside
  deriving DecidableEq

/-- Up to the first greater-than sign outside quotes, and what follows it. -/
def tagEnd (quote : Option Char) : List Char → Option (List Char × List Char)
  | [] => none
  | c :: cs =>
    match quote with
    | some q => (tagEnd (if c = q then none else some q) cs).map fun x => (c :: x.1, x.2)
    | none =>
      if c = '>' then some ([], cs)
      else
        let quote := if c = '"' ∨ c = '\x27' then some c else none
        (tagEnd quote cs).map fun x => (c :: x.1, x.2)

/-- Up to the first place where `mark` stands, and what follows the mark. -/
def upTo (mark : List Char) : List Char → Option (List Char × List Char)
  | [] => none
  | c :: cs =>
    match Text.afterList mark (c :: cs) with
    | some rest => some ([], rest)
    | none => (upTo mark cs).map fun x => (c :: x.1, x.2)

/-- Up to the greater-than sign that balances the less-than signs before it. -/
def balanced : Nat → List Char → Option (List Char × List Char)
  | _, [] => none
  | depth, c :: cs =>
    if c = '<' then (balanced (depth + 1) cs).map fun x => (c :: x.1, x.2)
    else if c = '>' then
      match depth with
      | 0 => some ([], cs)
      | depth + 1 => (balanced depth cs).map fun x => (c :: x.1, x.2)
    else (balanced depth cs).map fun x => (c :: x.1, x.2)

/-- A document type: its word in any case, then a name. -/
def isDocumentType (content : List Char) : Bool :=
  (content.take 7).map Char.toUpper == "DOCTYPE".toList && !(content.drop 7).all isMarkupBlank

/-- What follows an exclamation mark: a comment, a section of characters, or a
document type. -/
def bang? (cs : List Char) : Option (Piece × List Char) :=
  match cs with
  | '-' :: '-' :: rest => (upTo "-->".toList rest).map fun x => (.aside, x.2)
  | '[' :: rest =>
    match Text.afterList "CDATA[".toList rest with
    | some body => (upTo "]]>".toList body).map fun x => (.characters x.1, x.2)
    | none => none
  | rest =>
    match balanced 0 rest with
    | some (a, r) => if isDocumentType a then some (.aside, r) else none
    | none => none

def isDeclaration (content : List Char) : Bool :=
  match Text.afterList "xml".toList content with
  | some [] => true
  | some (c :: _) => isMarkupBlank c
  | none => false

def instruction (content : List Char) : Piece :=
  if isDeclaration content then .declaration (content.drop 3) else .aside

/-- What follows a question mark; one mark cannot both open and close. -/
def instruction? (cs : List Char) : Option (Piece × List Char) :=
  if cs.head? = some '>' then none
  else (upTo "?>".toList cs).map fun x => (instruction x.1, x.2)

/-- A tag that opens an element, or one that is empty. -/
def startTag (content : List Char) : Piece :=
  if content.getLast? = some '/' then .emptyTag content.dropLast else .openTag content

def markup? (cs : List Char) : Option (Piece × List Char) :=
  match cs with
  | '!' :: rest => bang? rest
  | '?' :: rest => instruction? rest
  | '/' :: rest => (tagEnd none rest).map fun x => (.closeTag x.1, x.2)
  | rest => (tagEnd none rest).map fun x => (startTag x.1, x.2)

/-! ## Every piece is shorter than the text -/

theorem rest_of_map {α β : Type} {o : Option (α × List Char)} {f : α → β} {b : β}
    {r : List Char} (h : (o.map fun x => (f x.1, x.2)) = some (b, r)) :
    ∃ a, o = some (a, r) := by
  obtain ⟨⟨a, r'⟩, ho, e⟩ := Option.map_eq_some_iff.1 h
  simp only [Prod.mk.injEq] at e
  exact ⟨a, by rw [ho, e.2]⟩

theorem tagEnd_shorter {q : Option Char} {cs a r : List Char} (h : tagEnd q cs = some (a, r)) :
    r.length < cs.length := by
  induction cs generalizing q a with
  | nil => simp [tagEnd] at h
  | cons c cs ih =>
    have step {q' : Option Char} {a' : List Char} (hm : tagEnd q' cs = some (a', r)) :
        r.length < (c :: cs).length := Nat.lt_succ_of_lt (ih hm)
    cases q with
    | some q =>
      obtain ⟨a', h'⟩ := rest_of_map (f := (c :: ·)) h
      exact step h'
    | none =>
      simp only [tagEnd] at h
      split at h
      · simp only [Option.some.injEq, Prod.mk.injEq] at h
        simp [← h.2]
      · obtain ⟨a', h'⟩ := rest_of_map (f := (c :: ·)) h
        exact step h'

theorem upTo_shorter {mark cs a r : List Char} (h : upTo mark cs = some (a, r)) :
    r.length ≤ cs.length := by
  induction cs generalizing a with
  | nil => simp [upTo] at h
  | cons c cs ih =>
    rw [upTo] at h
    split at h
    · next rest hr =>
      simp only [Option.some.injEq, Prod.mk.injEq] at h
      have hl := congrArg List.length (Text.afterList_eq_some hr)
      simp only [List.length_append] at hl
      rw [← h.2]
      omega
    · obtain ⟨a', h'⟩ := rest_of_map (f := (c :: ·)) h
      exact Nat.le_succ_of_le (ih h')

theorem balanced_shorter {n : Nat} {cs a r : List Char} (h : balanced n cs = some (a, r)) :
    r.length < cs.length := by
  induction cs generalizing n a with
  | nil => simp [balanced] at h
  | cons c cs ih =>
    have step {n' : Nat}
        (hm : ((balanced n' cs).map fun x => (c :: x.1, x.2)) = some (a, r)) :
        r.length < (c :: cs).length := by
      obtain ⟨a', h'⟩ := rest_of_map (f := (c :: ·)) hm
      exact Nat.lt_succ_of_lt (ih h')
    rw [balanced.eq_def] at h
    simp only at h
    split at h
    · exact step h
    · split at h
      · split at h
        · simp only [Option.some.injEq, Prod.mk.injEq] at h
          simp [← h.2]
        · exact step h
      · exact step h

theorem bang?_shorter {cs r : List Char} {p : Piece} (h : bang? cs = some (p, r)) :
    r.length ≤ cs.length := by
  rw [bang?.eq_def] at h
  split at h
  · next rest =>
    obtain ⟨a, h'⟩ := rest_of_map (f := fun _ => Piece.aside) h
    have hl := upTo_shorter h'
    simp only [List.length_cons]
    omega
  · split at h
    · next rest body hb =>
      obtain ⟨a, h'⟩ := rest_of_map (f := Piece.characters) h
      have hl := upTo_shorter h'
      have hb := congrArg List.length (Text.afterList_eq_some hb)
      simp only [List.length_append, List.length_cons] at hb ⊢
      omega
    · simp at h
  · split at h
    · next a r' hb =>
      split at h
      · simp only [Option.some.injEq, Prod.mk.injEq] at h
        have hl := balanced_shorter hb
        rw [← h.2]
        omega
      · simp at h
    · simp at h

theorem markup?_shorter {cs r : List Char} {p : Piece} (h : markup? cs = some (p, r)) :
    r.length ≤ cs.length := by
  rw [markup?.eq_def] at h
  split at h
  · exact Nat.le_succ_of_le (bang?_shorter h)
  · rw [instruction?] at h
    split at h
    · simp at h
    · obtain ⟨a, h'⟩ := rest_of_map (f := instruction) h
      exact Nat.le_succ_of_le (upTo_shorter h')
  · obtain ⟨a, h'⟩ := rest_of_map (f := Piece.closeTag) h
    exact Nat.le_succ_of_le (Nat.le_of_lt (tagEnd_shorter h'))
  · obtain ⟨a, h'⟩ := rest_of_map (f := startTag) h
    exact Nat.le_of_lt (tagEnd_shorter h')

/-! ## The pieces of a text -/

/-- Character data as a piece, if there is any. -/
def dataPiece (raw : List Char) : List Piece :=
  match Text.trimList isMarkupBlank raw with
  | [] => []
  | c :: cs => [.data (c :: cs)]

def pieces (cs : List Char) : Option (List Piece) :=
  let raw := cs.takeWhile (· ≠ '<')
  match _hc : cs.dropWhile (· ≠ '<') with
  | [] => some (dataPiece raw)
  | _ :: rest =>
    match _hm : markup? rest with
    | none => none
    | some (piece, after) =>
      (pieces after).map fun ps => dataPiece raw ++ piece :: ps
termination_by cs.length
decreasing_by
  have h₁ := markup?_shorter _hm
  have h₂ : (cs.dropWhile (· ≠ '<')).length ≤ cs.length := (List.dropWhile_sublist _).length_le
  rw [_hc, List.length_cons] at h₂
  omega

end OrgPipeline.Xml
