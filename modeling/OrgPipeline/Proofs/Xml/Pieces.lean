import Mathlib.Data.List.TakeWhile
import OrgPipeline.Xml.Event
import OrgPipeline.Proofs.Xml.Escape

/-!
# Texts read piece by piece

A text reads as a list of events when it adds exactly these events to whatever
follows it. Such readings compose, so that a writer is checked line by line.
-/

set_option autoImplicit false

namespace OrgPipeline.Xml

open Text (isMarkupBlank)

theorem tagEnd_append {cs : List Char} (h : ∀ c ∈ cs, c ≠ '>' ∧ c ≠ '"' ∧ c ≠ '\x27')
    (after : List Char) :
    tagEnd none (cs ++ after) = (tagEnd none after).map fun x => (cs ++ x.1, x.2) := by
  induction cs with
  | nil => simp
  | cons c cs ih =>
    obtain ⟨h₁, h₂, h₃⟩ := h c (by simp)
    have hrest := ih fun d hd => h d (by simp [hd])
    simp only [List.cons_append, tagEnd, if_neg h₁, h₂, h₃, or_self, if_false, hrest,
      Option.map_map, Function.comp_def]

theorem tagEnd_quoted {cs : List Char} (h : '"' ∉ cs) (after : List Char) :
    tagEnd (some '"') (cs ++ '"' :: after) =
      (tagEnd none after).map fun x => (cs ++ '"' :: x.1, x.2) := by
  induction cs with
  | nil => simp [tagEnd]
  | cons c cs ih =>
    simp only [List.mem_cons, not_or] at h
    simp only [List.cons_append, tagEnd, if_neg (Ne.symm h.1), ih h.2, Option.map_map,
      Function.comp_def]

theorem upTo_instruction {cs : List Char} (h : '>' ∉ cs) (after : List Char) :
    upTo "?>".toList (cs ++ '?' :: '>' :: after) = some (cs, after) := by
  induction cs with
  | nil => rfl
  | cons c cs ih =>
    simp only [List.mem_cons, not_or] at h
    -- the mark does not begin at `c`, whose successor is no greater-than sign
    have hnext : Text.afterList "?>".toList (c :: cs ++ '?' :: '>' :: after) = none := by
      cases cs with
      | nil => simp [Text.afterList]
      | cons d cs =>
        have hd : '>' ≠ d := by
          intro e
          exact h.2 (e ▸ List.mem_cons_self)
        simp [Text.afterList, hd]
    rw [List.cons_append, upTo, ← List.cons_append, hnext, ih h.2]
    rfl

theorem pieces_eq (cs : List Char) :
    pieces cs =
      match cs.dropWhile (· ≠ '<') with
      | [] => some (dataPiece (cs.takeWhile (· ≠ '<')))
      | _ :: rest =>
        (markup? rest).bind fun x =>
          (pieces x.2).map fun ps => dataPiece (cs.takeWhile (· ≠ '<')) ++ x.1 :: ps := by
  rw [pieces]
  split
  · next h => simp only [h]
  · next h =>
    simp only [h]
    split
    · next hm => rw [hm, Option.bind_none]
    · next hm => rw [hm, Option.bind_some]

theorem pieces_nil : pieces [] = some [] := by
  rw [pieces_eq]
  rfl

theorem pieces_append {raw : List Char} (h : '<' ∉ raw) (rest : List Char) :
    pieces (raw ++ '<' :: rest) =
      (markup? rest).bind fun x => (pieces x.2).map fun ps => dataPiece raw ++ x.1 :: ps := by
  have hraw : ∀ c ∈ raw, decide (c ≠ '<') = true := by
    intro c hc
    exact decide_eq_true fun e => h (e ▸ hc)
  rw [pieces_eq, List.dropWhile_append_of_pos hraw, List.takeWhile_append_of_pos hraw]
  simp

theorem pieces_blank {c : Char} (h : isMarkupBlank c = true) (cs : List Char) :
    pieces (c :: cs) = pieces cs := by
  have hc : c ≠ '<' := by
    rintro rfl
    revert h
    decide
  have hdata (raw : List Char) : dataPiece (c :: raw) = dataPiece raw := by
    simp only [dataPiece, Text.trimList, List.dropWhile_cons_of_pos h]
  rw [pieces_eq, pieces_eq cs]
  simp only [List.dropWhile_cons, List.takeWhile_cons, decide_eq_true hc, if_true, hdata]

def IsWord (name : List Char) : Prop := name ≠ [] ∧ name.all Char.isAlpha = true

instance (name : List Char) : Decidable (IsWord name) := by
  unfold IsWord
  infer_instance

theorem not_markup_of_alpha {c : Char} (h : c.isAlpha = true) : isMarkup c = false := by
  cases hc : isMarkup c with
  | false => rfl
  | true =>
    simp only [isMarkup, decide_eq_true_eq] at hc
    rcases hc with rfl | rfl | rfl | rfl | rfl <;> exact absurd h (by decide)

theorem not_blank_of_alpha {c : Char} (h : c.isAlpha = true) : isMarkupBlank c = false := by
  cases hc : isMarkupBlank c with
  | false => rfl
  | true =>
    simp only [isMarkupBlank, Bool.or_eq_true, beq_iff_eq] at hc
    rcases hc with ((rfl | rfl) | rfl) | rfl <;> exact absurd h (by decide)

namespace IsWord

variable {name : List Char}

theorem alpha (h : IsWord name) : ∀ c ∈ name, c.isAlpha = true := List.all_eq_true.1 h.2

theorem cons (h : IsWord name) : ∃ c cs, name = c :: cs ∧ c.isAlpha = true := by
  cases name with
  | nil => exact absurd rfl h.1
  | cons c cs => exact ⟨c, cs, rfl, h.alpha c (by simp)⟩

theorem no_sign (h : IsWord name) : ∀ c ∈ name, c ≠ '>' ∧ c ≠ '"' ∧ c ≠ '\x27' := by
  intro c hc
  have hm := not_markup_of_alpha (h.alpha c hc)
  simp only [isMarkup, decide_eq_false_iff_not, not_or] at hm
  exact ⟨hm.2.1, hm.2.2.2.2, hm.2.2.2.1⟩

theorem no_blank (h : IsWord name) : ∀ c ∈ name, (!isMarkupBlank c) = true := by
  intro c hc
  rw [not_blank_of_alpha (h.alpha c hc)]
  rfl

theorem tagName_append (h : IsWord name) (rest : List Char) :
    tagName (name ++ ' ' :: rest) = name := by
  rw [tagName, List.takeWhile_append_of_pos h.no_blank]
  simp [isMarkupBlank]

theorem tagAttributes_append (h : IsWord name) (rest : List Char) :
    tagAttributes (name ++ ' ' :: rest) = ' ' :: rest := by
  rw [tagAttributes, List.dropWhile_append_of_pos h.no_blank]
  simp [isMarkupBlank]

theorem tagName_eq (h : IsWord name) : tagName name = name :=
  List.takeWhile_eq_self_iff.2 h.no_blank

theorem tagAttributes_eq (h : IsWord name) : tagAttributes name = [] :=
  List.dropWhile_eq_nil_iff.2 h.no_blank

theorem localPart_eq (h : IsWord name) : localPart name = name := by
  have hcolon : name.dropWhile (· ≠ ':') = [] := by
    refine List.dropWhile_eq_nil_iff.2 fun c hc => decide_eq_true ?_
    rintro rfl
    exact absurd (h.alpha _ hc) (by decide)
  rw [localPart, hcolon]

theorem closedName_eq (h : IsWord name) : closedName name = name := by
  have hend : Text.dropEndWhile isMarkupBlank name = name := by
    rw [Text.dropEndWhile]
    cases hr : name.reverse with
    | nil => exact absurd (List.reverse_eq_nil_iff.1 hr) h.1
    | cons c cs =>
      have hc : c ∈ name := List.mem_reverse.1 (hr ▸ List.mem_cons_self)
      rw [List.dropWhile_cons_of_neg (by simp [not_blank_of_alpha (h.alpha c hc)]), ← hr,
        List.reverse_reverse]
  rw [closedName, hend]
  obtain ⟨c, cs, rfl, -⟩ := h.cons
  rfl

end IsWord

def attributeText (key value : List Char) : List Char :=
  ' ' :: (key ++ '=' :: '"' :: (value ++ ['"']))

def IsKey (key : List Char) : Prop :=
  key ≠ [] ∧ key.all (fun c => !(c == '=' || isMarkupBlank c)) = true

instance (key : List Char) : Decidable (IsKey key) := by
  unfold IsKey
  infer_instance

theorem IsWord.key {name : List Char} (h : IsWord name) : IsKey name := by
  refine ⟨h.1, List.all_eq_true.2 fun c hc => ?_⟩
  have ha := h.alpha c hc
  have he : c ≠ '=' := by
    rintro rfl
    exact absurd ha (by decide)
  simp [he, not_blank_of_alpha ha]

theorem skipBlanks_append {blanks : List Char} (h : blanks.all isMarkupBlank = true)
    (cs : List Char) : skipBlanks (blanks ++ cs) = skipBlanks cs :=
  List.dropWhile_append_of_pos (List.all_eq_true.1 h)

theorem skipBlanks_cons {c : Char} (h : isMarkupBlank c = false) (cs : List Char) :
    skipBlanks (c :: cs) = c :: cs :=
  List.dropWhile_cons_of_neg (by simp [h])

theorem attributeValue_quoted {blanks value : List Char} {quote : Char}
    (hblanks : blanks.all isMarkupBlank = true) (hquote : quote = '"' ∨ quote = '\x27')
    (hvalue : quote ∉ value) (key rest : List Char) :
    attributeValue key (blanks ++ quote :: (value ++ quote :: rest)) = .found key value rest := by
  have hinside (d : Char) (hd : d ∈ value) : decide (d ≠ quote) = true :=
    decide_eq_true fun e => hvalue (e ▸ hd)
  have hsign : isMarkupBlank quote = false := by
    rcases hquote with rfl | rfl <;> decide
  unfold attributeValue
  rw [skipBlanks_append hblanks, skipBlanks_cons hsign]
  simp only [if_pos hquote, List.dropWhile_append_of_pos hinside,
    List.takeWhile_append_of_pos hinside]
  simp

/-- An attribute is found whatever blanks stand before its key and around its sign of
equality, and whichever quotes its value is in. -/
theorem nextAttribute_spaced {gap key before after value : List Char} {quote : Char}
    (hgap : gap.all isMarkupBlank = true) (hkey : IsKey key)
    (hbefore : before.all isMarkupBlank = true) (hafter : after.all isMarkupBlank = true)
    (hquote : quote = '"' ∨ quote = '\x27') (hvalue : quote ∉ value) (rest : List Char) :
    nextAttribute
        (gap ++ (key ++ (before ++ '=' :: (after ++ quote :: (value ++ quote :: rest))))) =
      .found key value rest := by
  have hstop := List.all_eq_true.1 hkey.2
  -- the first character of a key is free, and only the others are looked at
  obtain ⟨c, cs, rfl⟩ := List.exists_cons_of_ne_nil hkey.1
  have hc : isMarkupBlank c = false := by
    have := hstop c (by simp)
    simp_all
  have hcs (d : Char) (hd : d ∈ cs) := hstop d (List.mem_cons_of_mem c hd)
  have hend (tail : List Char) :
      (before ++ '=' :: tail).dropWhile (fun d => !(d == '=' || isMarkupBlank d)) =
        before ++ '=' :: tail ∧
      (before ++ '=' :: tail).takeWhile (fun d => !(d == '=' || isMarkupBlank d)) = [] := by
    cases before with
    | nil => simp
    | cons d ds =>
      rw [List.all_cons, Bool.and_eq_true] at hbefore
      simp [hbefore.1]
  have htail (tail : List Char) : skipBlanks (before ++ '=' :: tail) = '=' :: tail := by
    rw [skipBlanks_append hbefore, skipBlanks_cons (by decide)]
  unfold nextAttribute
  rw [skipBlanks_append hgap, List.cons_append, skipBlanks_cons hc]
  simp only [List.dropWhile_append_of_pos hcs, List.takeWhile_append_of_pos hcs, hend,
    List.append_nil, htail]
  exact attributeValue_quoted hafter hquote hvalue (c :: cs) rest

theorem nextAttribute_text {key value : List Char} (hkey : IsWord key) (hvalue : '"' ∉ value)
    (rest : List Char) :
    nextAttribute (attributeText key value ++ rest) = .found key value rest := by
  have hblank : [' '].all isMarkupBlank = true := by decide
  have hnone : ([] : List Char).all isMarkupBlank = true := rfl
  have h := nextAttribute_spaced hblank hkey.key hnone hnone (Or.inl rfl) hvalue rest
  simpa [attributeText] using h

theorem attribute?_text {key : String} {value : List Char} (hkey : IsWord key.toList)
    (hvalue : '"' ∉ value) (unique : Bool) (rest : List Char) :
    attribute? unique key (attributeText key.toList value ++ rest) = some (some value) := by
  simp [attribute?, findAttribute, nextAttribute_text hkey hvalue rest]

theorem declaration?_text {version encoding : List Char} (hversion : '"' ∉ version)
    (hencoding : '"' ∉ encoding) :
    declaration? (attributeText "version".toList version ++
      attributeText "encoding".toList encoding) =
        some (.declaration (String.ofList version) (some (String.ofList encoding))) := by
  have hfirst := nextAttribute_text (by decide : IsWord "version".toList) hversion
    (attributeText "encoding".toList encoding)
  have hsecond := nextAttribute_text (by decide : IsWord "encoding".toList) hencoding []
  rw [List.append_nil] at hsecond
  have hne : "version".toList ≠ "encoding".toList := by decide
  have hfound : attribute? false "encoding" (attributeText "version".toList version ++
      attributeText "encoding".toList encoding) = some (some encoding) := by
    rw [attribute?, List.length_append]
    have hlength : (attributeText "encoding".toList encoding).length =
        (attributeText "encoding".toList encoding).length - 1 + 1 := by
      simp [attributeText]
    rw [hlength, ← Nat.add_assoc]
    simp only [findAttribute, hfirst, hsecond, Bool.false_and, if_neg hne, if_true,
      Bool.false_eq_true, if_false]
  simp only [declaration?, hfirst, if_true, hfound, Option.map_some]

def eventsIn (names : List (List Char)) (cs : List Char) : Option (List Event) :=
  (pieces cs).bind (Event.ofPiecesIn names)

/-- Inside the elements `names` a text adds these events to those of whatever
follows it, and leaves the elements `names'` open. -/
def Reads (names : List (List Char)) (cs : List Char) (names' : List (List Char))
    (events : List Event) : Prop :=
  ∀ after, eventsIn names (cs ++ after) = (eventsIn names' after).map (events ++ ·)

theorem reads_append {names names' names'' : List (List Char)} {cs ds : List Char}
    {es fs : List Event} (h₁ : Reads names cs names' es) (h₂ : Reads names' ds names'' fs) :
    Reads names (cs ++ ds) names'' (es ++ fs) := by
  intro after
  rw [List.append_assoc, h₁, h₂, Option.map_map]
  congr 1
  funext rest
  simp

variable (names : List (List Char))

theorem reads_nil : Reads names [] names [] := by
  intro after
  simp

theorem reads_flatMap {α : Type} {text : α → List Char} {events : α → List Event}
    (h : ∀ x, Reads names (text x) names (events x)) (xs : List α) :
    Reads names (xs.flatMap text) names (xs.flatMap events) := by
  induction xs with
  | nil => exact reads_nil names
  | cons x xs ih => exact reads_append (h x) ih

theorem reads_blanks {ws : List Char} (h : ws.all isMarkupBlank = true) :
    Reads names ws names [] := by
  induction ws with
  | nil => exact reads_nil names
  | cons c ws ih =>
    rw [List.all_cons, Bool.and_eq_true] at h
    intro after
    rw [List.cons_append, eventsIn, pieces_blank h.1]
    exact ih h.2 after

def dataEvents (content : List Char) : List Event :=
  if content = [] then [] else [.text (String.ofList content)]

theorem ofPiecesIn_data {raw content : List Char}
    (hback : unescape (Text.trimList isMarkupBlank raw) = some content)
    (hempty : content = [] → Text.trimList isMarkupBlank raw = []) (ps : List Piece) :
    Event.ofPiecesIn names (dataPiece raw ++ ps) =
      (Event.ofPiecesIn names ps).map (dataEvents content ++ ·) := by
  unfold dataPiece dataEvents
  cases ht : Text.trimList isMarkupBlank raw with
  | nil =>
    rw [ht] at hback
    cases hback
    simp
  | cons c cs =>
    rw [ht] at hback hempty
    have hne : content ≠ [] := fun h => List.cons_ne_nil c cs (hempty h)
    simp only [List.singleton_append, Event.ofPiecesIn, hback, if_neg hne, Option.bind_eq_bind,
      Option.bind_some, Option.map_eq_bind, Function.comp_def]

/-- The events of the text of an element: one, unless nothing but blanks is in
it. -/
def textEvents (content : List Char) : List Event :=
  match Text.trimList isMarkupBlank content with
  | [] => []
  | c :: cs => [.text (String.ofList (c :: cs))]

theorem textEvents_eq (content : List Char) :
    textEvents content = dataEvents (Text.trimList isMarkupBlank content) := by
  unfold textEvents dataEvents
  cases Text.trimList isMarkupBlank content <;> rfl

theorem ofPiecesIn_dataPiece (content : List Char) (ps : List Piece) :
    Event.ofPiecesIn names (dataPiece (escape content) ++ ps) =
      (Event.ofPiecesIn names ps).map (textEvents content ++ ·) := by
  rw [textEvents_eq]
  apply ofPiecesIn_data
  · rw [trimList_escape, unescape_escape]
  · intro h
    rw [trimList_escape, h]
    rfl

theorem eventsIn_markup {raw tag after : List Char} {piece : Piece} (hraw : '<' ∉ raw)
    (htag : markup? (tag ++ after) = some (piece, after)) :
    eventsIn names (raw ++ '<' :: tag ++ after) =
      (pieces after).bind fun ps => Event.ofPiecesIn names (dataPiece raw ++ piece :: ps) := by
  rw [List.append_assoc, List.cons_append, eventsIn, pieces_append hraw, htag, Option.bind_some,
    Option.bind_map]
  rfl

theorem markup?_letter {c : Char} (hc : c.isAlpha = true) (cs : List Char) :
    markup? (c :: cs) = (tagEnd none (c :: cs)).map fun x => (startTag x.1, x.2) := by
  rw [markup?.eq_def]
  split
  · next e => exact absurd ((List.cons.inj e).1 ▸ hc) (by decide)
  · next e => exact absurd ((List.cons.inj e).1 ▸ hc) (by decide)
  · next e => exact absurd ((List.cons.inj e).1 ▸ hc) (by decide)
  · rfl

theorem reads_open {name attributes : List Char} (hname : IsWord name)
    (htag : ∀ after, tagEnd none (attributes ++ '>' :: after) = some (attributes, after))
    (hlast : (name ++ attributes).getLast? ≠ some '/') :
    Reads names ('<' :: (name ++ attributes ++ ['>']))
      (tagName (name ++ attributes) :: names)
      [.start (localName (name ++ attributes)) (tagAttributes (name ++ attributes))] := by
  intro after
  have hmarkup : markup? (name ++ attributes ++ ['>'] ++ after) =
      some (.openTag (name ++ attributes), after) := by
    have hend : tagEnd none (name ++ (attributes ++ '>' :: after)) =
        some (name ++ attributes, after) := by
      rw [tagEnd_append hname.no_sign, htag]
      rfl
    obtain ⟨c, cs, rfl, hc⟩ := hname.cons
    simp only [List.append_assoc, List.cons_append, List.nil_append] at hend hlast ⊢
    rw [markup?_letter hc, hend]
    simp only [Option.map_some, startTag, if_neg hlast]
  have h := eventsIn_markup names (List.not_mem_nil : '<' ∉ []) hmarkup
  rw [List.nil_append] at h
  rw [h, eventsIn, Option.map_bind]
  rfl

theorem reads_openWord {name : String} (hname : IsWord name.toList) :
    Reads names ('<' :: (name.toList ++ ['>'])) (name.toList :: names) [.start name []] := by
  have hlast : (name.toList ++ []).getLast? ≠ some '/' := by
    intro h
    rw [List.append_nil] at h
    exact absurd (hname.alpha _ (List.mem_of_getLast? h)) (by decide)
  have h := reads_open names hname (fun after => rfl) hlast
  rwa [List.append_nil, hname.tagName_eq, hname.tagAttributes_eq, localName, hname.tagName_eq,
    hname.localPart_eq, String.ofList_toList] at h

theorem reads_openText {name : String} {key value : List Char} (hname : IsWord name.toList)
    (hkey : IsWord key) (hvalue : '"' ∉ value) :
    Reads names ('<' :: (name.toList ++ attributeText key value ++ ['>'])) (name.toList :: names)
      [.start name (attributeText key value)] := by
  have htag (after : List Char) :
      tagEnd none (attributeText key value ++ '>' :: after) =
        some (attributeText key value, after) := by
    have hblank : ∀ c ∈ [' '], c ≠ '>' ∧ c ≠ '"' ∧ c ≠ '\x27' := by simp
    have hequal : ∀ c ∈ ['='], c ≠ '>' ∧ c ≠ '"' ∧ c ≠ '\x27' := by simp
    have hquoted : tagEnd none ('"' :: (value ++ '"' :: '>' :: after)) =
        some ('"' :: (value ++ ['"']), after) := by
      simp [tagEnd, tagEnd_quoted hvalue]
    have hkeyed := tagEnd_append hkey.no_sign ('=' :: '"' :: (value ++ '"' :: '>' :: after))
    rw [← List.singleton_append (x := '='), tagEnd_append hequal, hquoted] at hkeyed
    have h := tagEnd_append hblank (key ++ ['='] ++ '"' :: (value ++ '"' :: '>' :: after))
    simp only [List.append_assoc, List.singleton_append] at h hkeyed
    simpa [attributeText, hkeyed] using h
  have hlast : (name.toList ++ attributeText key value).getLast? ≠ some '/' := by
    have hquote : name.toList ++ attributeText key value =
        name.toList ++ ' ' :: (key ++ '=' :: '"' :: value) ++ ['"'] := by
      simp [attributeText]
    rw [hquote, List.getLast?_concat]
    decide
  have h := reads_open names hname htag hlast
  rw [attributeText, hname.tagName_append, hname.tagAttributes_append, localName,
    hname.tagName_append, hname.localPart_eq, String.ofList_toList] at h
  exact h

theorem reads_close {name : List Char} (hname : IsWord name) (content : List Char) :
    Reads (name :: names) (escape content ++ '<' :: '/' :: (name ++ ['>'])) names
      (textEvents content ++ [.finish]) := by
  intro after
  have hmarkup : markup? ('/' :: (name ++ ['>']) ++ after) = some (.closeTag name, after) := by
    have hend : tagEnd none (name ++ '>' :: after) = some (name, after) := by
      rw [tagEnd_append hname.no_sign]
      simp [tagEnd]
    simp [markup?, hend]
  rw [eventsIn_markup _ (not_mem_escape (by decide) (by decide) content) hmarkup]
  simp only [ofPiecesIn_dataPiece, Event.ofPiecesIn, hname.closedName_eq, if_true, eventsIn,
    Option.map_bind, Option.map_map]
  congr 1
  funext ps
  congr 1
  funext events
  simp

theorem reads_element {name : String} (hname : IsWord name.toList) (content : List Char) :
    Reads names
      ('<' :: (name.toList ++ ['>']) ++ (escape content ++ '<' :: '/' :: (name.toList ++ ['>'])))
      names (.start name [] :: (textEvents content ++ [.finish])) :=
  reads_append (reads_openWord names hname) (reads_close names hname content)

/-- The line that declares a document, its two values as written. -/
theorem reads_declaration {version encoding : List Char}
    (hversion : ∀ c ∈ version, isMarkup c = false)
    (hencoding : ∀ c ∈ encoding, isMarkup c = false) :
    Reads names ("<?xml".toList ++ attributeText "version".toList version ++
      attributeText "encoding".toList encoding ++ "?>".toList) names
      [.declaration (String.ofList version) (some (String.ofList encoding))] := by
  intro after
  have hno {value : List Char} (h : ∀ c ∈ value, isMarkup c = false) : '"' ∉ value ∧ '>' ∉ value :=
    ⟨fun hm => absurd (h _ hm) (by decide), fun hm => absurd (h _ hm) (by decide)⟩
  obtain ⟨hv₁, hv₂⟩ := hno hversion
  obtain ⟨he₁, he₂⟩ := hno hencoding
  let content := attributeText "version".toList version ++ attributeText "encoding".toList encoding
  have hcontent : '>' ∉ "xml".toList ++ content := by
    simp [content, attributeText, hv₂, he₂]
  have hmarkup : markup? ('?' :: ("xml".toList ++ content ++ "?>".toList) ++ after) =
      some (.declaration content, after) := by
    have hend : upTo "?>".toList ("xml".toList ++ content ++ "?>".toList ++ after) =
        some ("xml".toList ++ content, after) := by
      rw [List.append_assoc]
      exact upTo_instruction hcontent after
    change instruction? ("xml".toList ++ content ++ "?>".toList ++ after) = _
    rw [instruction?, if_neg (by simp), hend]
    rfl
  have hread : declaration? content = some (.declaration (String.ofList version)
    (some (String.ofList encoding))) := declaration?_text hv₁ he₁
  have htext : "<?xml".toList ++ attributeText "version".toList version ++
      attributeText "encoding".toList encoding ++ "?>".toList =
        '<' :: '?' :: ("xml".toList ++ content ++ "?>".toList) := by
    simp [content]
  have h := eventsIn_markup names (List.not_mem_nil : '<' ∉ []) hmarkup
  rw [List.nil_append] at h
  rw [htext, h, eventsIn, Option.map_bind]
  congr 1
  funext ps
  simp only [dataPiece, Text.trimList_nil, List.nil_append, Event.ofPiecesIn, hread,
    Option.bind_eq_bind, Option.bind_some, Option.map_eq_bind, Function.comp_def]
  rfl

end OrgPipeline.Xml
