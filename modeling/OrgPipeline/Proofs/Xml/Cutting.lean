import OrgPipeline.Proofs.Text.Trim
import OrgPipeline.Proofs.Xml.Document
import OrgPipeline.Proofs.Xml.Nesting

/-!
# Texts cut in two

Where a piece of a text ends does not depend on what follows. A text that is cut beside a
tag has therefore the pieces of its two parts, and its events are those of the first part
and those of the second inside the elements that the first leaves open.
-/

set_option autoImplicit false

namespace OrgPipeline.Xml

open Text (isMarkupBlank)

theorem cons_of_map {α : Type} {o : Option (List α × List α)} {c : α} {a r : List α}
    (h : (o.map fun x => (c :: x.1, x.2)) = some (a, r)) : ∃ b, o = some (b, r) ∧ a = c :: b := by
  obtain ⟨⟨b, r'⟩, ho, hx⟩ := Option.map_eq_some_iff.1 h
  cases hx
  exact ⟨b, ho, rfl⟩

section
variable {cs a r : List Char} (after : List Char)

theorem tagEnd_extend {quote : Option Char} (h : tagEnd quote cs = some (a, r)) :
    tagEnd quote (cs ++ after) = some (a, r ++ after) := by
  induction cs generalizing quote a with
  | nil => cases h
  | cons c cs ih =>
    rw [List.cons_append]
    cases quote with
    | some q =>
      obtain ⟨b, hb, rfl⟩ := cons_of_map h
      rw [tagEnd, ih hb]
      rfl
    | none =>
      simp only [tagEnd] at h ⊢
      split
      · next hc =>
        rw [if_pos hc] at h
        cases h
        rfl
      · next hc =>
        rw [if_neg hc] at h
        obtain ⟨b, hb, rfl⟩ := cons_of_map h
        rw [ih hb]
        rfl

theorem balanced_extend {depth : Nat} (h : balanced depth cs = some (a, r)) :
    balanced depth (cs ++ after) = some (a, r ++ after) := by
  induction cs generalizing depth a with
  | nil => cases h
  | cons c cs ih =>
    have step {depth : Nat} {a : List Char}
        (h : ((balanced depth cs).map fun x => (c :: x.1, x.2)) = some (a, r)) :
        ((balanced depth (cs ++ after)).map fun x => (c :: x.1, x.2)) = some (a, r ++ after) := by
      obtain ⟨b, hb, rfl⟩ := cons_of_map h
      rw [ih hb]
      rfl
    rw [List.cons_append]
    rw [balanced.eq_def] at h ⊢
    simp only at h ⊢
    split
    · next hc =>
      rw [if_pos hc] at h
      exact step h
    · next hc =>
      rw [if_neg hc] at h
      split
      · next hend =>
        rw [if_pos hend] at h
        cases depth with
        | zero =>
          cases h
          rfl
        | succ depth => exact step h
      · next hend =>
        rw [if_neg hend] at h
        exact step h

theorem afterList_extend {mark : List Char} (h : Text.afterList mark cs = some r) :
    Text.afterList mark (cs ++ after) = some (r ++ after) := by
  rw [Text.afterList_eq_some h, List.append_assoc, Text.afterList_append]

theorem afterList_none_extend {mark : List Char} (h : Text.afterList mark cs = none)
    (hlength : mark.length ≤ cs.length) : Text.afterList mark (cs ++ after) = none := by
  induction mark generalizing cs with
  | nil => cases h
  | cons m mark ih =>
    cases cs with
    | nil => cases hlength
    | cons c cs =>
      rw [List.cons_append]
      simp only [Text.afterList] at h ⊢
      split
      · next heq =>
        rw [if_pos heq] at h
        exact ih h (Nat.le_of_succ_le_succ hlength)
      · rfl

theorem length_le_of_upTo {mark : List Char} (h : upTo mark cs = some (a, r)) :
    mark.length ≤ cs.length := by
  induction cs generalizing a with
  | nil => cases h
  | cons c cs ih =>
    rw [upTo] at h
    split at h
    · next rest hrest =>
      have hlength := congrArg List.length (Text.afterList_eq_some hrest)
      rw [List.length_append] at hlength
      omega
    · obtain ⟨b, hb, -⟩ := cons_of_map h
      exact Nat.le_succ_of_le (ih hb)

theorem upTo_extend {mark : List Char} (h : upTo mark cs = some (a, r)) :
    upTo mark (cs ++ after) = some (a, r ++ after) := by
  induction cs generalizing a with
  | nil => cases h
  | cons c cs ih =>
    have hlength := length_le_of_upTo h
    rw [upTo] at h
    rw [List.cons_append, upTo, ← List.cons_append]
    cases hmark : Text.afterList mark (c :: cs) with
    | some rest =>
      rw [hmark] at h
      cases h
      rw [afterList_extend after hmark]
    | none =>
      rw [hmark] at h
      obtain ⟨b, hb, rfl⟩ := cons_of_map h
      rw [afterList_none_extend after hmark hlength]
      simp only [ih hb, Option.map_some]

end

section
variable {cs r : List Char} {piece : Piece} (after : List Char)

theorem map_extend {α : Type} {o o' : Option (α × List Char)} {f : α → Piece}
    (ho : ∀ a, o = some (a, r) → o' = some (a, r ++ after))
    (h : (o.map fun x => (f x.1, x.2)) = some (piece, r)) :
    (o'.map fun x => (f x.1, x.2)) = some (piece, r ++ after) := by
  obtain ⟨⟨a, r'⟩, ha, hx⟩ := Option.map_eq_some_iff.1 h
  cases hx
  rw [ho a ha]
  rfl

theorem bang?_extend (h : bang? cs = some (piece, r)) :
    bang? (cs ++ after) = some (piece, r ++ after) := by
  rw [bang?.eq_def] at h
  split at h
  · next rest =>
    exact map_extend after (f := fun _ => .aside) (fun _ => upTo_extend after) h
  · next rest =>
    split at h
    · next body hbody =>
      rw [List.cons_append, bang?, afterList_extend after hbody]
      exact map_extend after (fun _ => upTo_extend after) h
    · cases h
  · next hdashes hbracket =>
    split at h
    · next a r' hbalanced =>
      split at h
      · next htype =>
        cases h
        -- a single dash has no end, so two dashes cannot come about across the cut
        have hdashes' : ∀ rest, cs ++ after = '-' :: '-' :: rest → False := by
          intro rest heq
          rcases cs with - | ⟨c, - | ⟨d, cs⟩⟩
          · cases hbalanced
          · cases heq
            cases hbalanced
          · cases heq
            exact hdashes cs rfl
        have hbracket' : ∀ rest, cs ++ after = '[' :: rest → False := by
          intro rest heq
          cases cs with
          | nil => cases hbalanced
          | cons c cs =>
            cases heq
            exact hbracket cs rfl
        rw [bang?.eq_3 _ hdashes' hbracket', balanced_extend after hbalanced]
        simp only [htype, if_true]
      · cases h
    · cases h

theorem instruction?_extend (h : instruction? cs = some (piece, r)) :
    instruction? (cs ++ after) = some (piece, r ++ after) := by
  cases cs with
  | nil => cases h
  | cons c cs =>
    unfold instruction? at h ⊢
    split at h
    · cases h
    · next hhead =>
      have hsame : (c :: cs ++ after).head? ≠ some '>' := hhead
      rw [if_neg hsame]
      exact map_extend after (fun _ => upTo_extend after) h

theorem markup?_extend (h : markup? cs = some (piece, r)) :
    markup? (cs ++ after) = some (piece, r ++ after) := by
  rw [markup?.eq_def] at h
  split at h
  · exact bang?_extend after h
  · exact instruction?_extend after h
  · exact map_extend after (fun _ => tagEnd_extend after) h
  · next hbang hquestion hslash =>
    cases cs with
    | nil => cases h
    | cons c cs =>
      have hother : ∀ rest d, (∀ rest, c :: cs = d :: rest → False) →
          c :: cs ++ after = d :: rest → False := by
        intro rest d hd heq
        cases heq
        exact hd cs rfl
      rw [markup?.eq_4 _ (hother · _ hbang) (hother · _ hquestion) (hother · _ hslash)]
      exact map_extend after (fun _ => tagEnd_extend after) h

end

theorem pieces_blanks {blanks : List Char} (h : blanks.all isMarkupBlank = true)
    (cs : List Char) : pieces (blanks ++ cs) = pieces cs := by
  induction blanks with
  | nil => rfl
  | cons c blanks ih =>
    rw [List.all_cons, Bool.and_eq_true] at h
    rw [List.cons_append, pieces_blank h.1, ih h.2]

theorem pieces_data {raw : List Char} (h : '<' ∉ raw) : pieces raw = some (dataPiece raw) := by
  have hraw : ∀ c ∈ raw, decide (c ≠ '<') = true := by
    intro c hc
    exact decide_eq_true fun e => h (e ▸ hc)
  rw [pieces_eq, List.dropWhile_eq_nil_iff.2 hraw, List.takeWhile_eq_self_iff.2 hraw]

theorem blank_of_dataPiece {raw : List Char} (h : ∀ r, (dataPiece raw).getLast? ≠ some (.data r)) :
    raw.all isMarkupBlank = true := by
  unfold dataPiece at h
  cases htrim : Text.trimList isMarkupBlank raw with
  | nil => exact Text.all_of_trimList_eq_nil htrim
  | cons c cs =>
    rw [htrim] at h
    exact absurd rfl (h (c :: cs))

/-- Beside a cut the text before does not end with character data, or the text after it
begins with a tag. -/
def Clean (ps : List Piece) (after : List Char) : Prop :=
  (∀ raw, ps.getLast? ≠ some (.data raw)) ∨ ∃ rest, after = '<' :: rest

theorem Clean.of_append {qs ps : List Piece} {after : List Char} (h : Clean (qs ++ ps) after) :
    Clean ps after := by
  refine h.imp_left fun hlast raw hraw => hlast raw ?_
  rw [List.getLast?_append, hraw]
  rfl

theorem pieces_extend {before after : List Char} {ps : List Piece}
    (h : pieces before = some ps) (hclean : Clean ps after) :
    pieces (before ++ after) = (pieces after).map (ps ++ ·) := by
  induction hn : before.length using Nat.strong_induction_on generalizing before ps with
  | _ n ih =>
    by_cases htag : '<' ∈ before
    · obtain ⟨raw, rest, rfl, hraw⟩ := List.eq_append_cons_of_mem htag
      rw [pieces_append hraw] at h
      obtain ⟨⟨piece, last⟩, hmarkup, hrest⟩ := Option.bind_eq_some_iff.1 h
      obtain ⟨qs, hqs, rfl⟩ := Option.map_eq_some_iff.1 hrest
      have hshorter : last.length < n := by
        have hlength := markup?_shorter hmarkup
        simp only [List.length_append, List.length_cons] at hn
        omega
      have hall : Clean ((dataPiece raw ++ [piece]) ++ qs) after := by simpa using hclean
      have hlast := ih _ hshorter hqs hall.of_append rfl
      rw [List.append_assoc, List.cons_append, pieces_append hraw, markup?_extend after hmarkup,
        Option.bind_some, hlast, Option.map_map]
      simp [Function.comp_def]
    · rw [pieces_data htag, Option.some.injEq] at h
      subst h
      rcases hclean with hlast | ⟨rest, rfl⟩
      · have hblank := blank_of_dataPiece hlast
        have hnone : dataPiece before = [] := by
          rw [dataPiece, Text.trimList, List.dropWhile_eq_nil_iff.2 (List.all_eq_true.1 hblank)]
          rfl
        rw [pieces_blanks hblank, hnone]
        simp
      · have hfirst := pieces_append (List.not_mem_nil : '<' ∉ []) rest
        rw [List.nil_append] at hfirst
        rw [pieces_append htag, hfirst, Option.map_bind]
        congr 1
        funext x
        rw [Function.comp_apply, Option.map_map]
        congr 1

inductive Beside (before after : List Char) : Prop where
  | start {ps : List Piece} {content : List Char}
      (h : pieces (Event.afterMark before) = some (ps ++ [.openTag content]))
  | finish {ps : List Piece} {rest : List Char} (h : pieces (Event.afterMark before) = some ps)
      (hafter : after = '<' :: '/' :: rest)

theorem afterMark_append {before after : List Char}
    (h : before ≠ [] ∨ ∃ rest, after = '<' :: rest) :
    Event.afterMark (before ++ after) = Event.afterMark before ++ after := by
  cases before with
  | nil =>
    obtain ⟨rest, rfl⟩ := h.resolve_left (fun hne => hne rfl)
    have hsign : '<' ≠ Event.byteOrderMark := by decide
    rw [List.nil_append, Event.afterMark, if_neg hsign]
    rfl
  | cons c cs =>
    unfold Event.afterMark
    rw [List.cons_append]
    simp only
    split <;> rfl

theorem pieces_endTag {rest : List Char} {qs : List Piece}
    (h : pieces ('<' :: '/' :: rest) = some qs) : ∃ content qs', qs = .closeTag content :: qs' := by
  have hfirst := pieces_append (List.not_mem_nil : '<' ∉ []) ('/' :: rest)
  rw [List.nil_append, h] at hfirst
  obtain ⟨⟨p, last⟩, hmarkup, hrest⟩ := Option.bind_eq_some_iff.1 hfirst.symm
  obtain ⟨⟨content, last'⟩, -, hx⟩ := Option.map_eq_some_iff.1 hmarkup
  cases hx
  obtain ⟨qs', -, rfl⟩ := Option.map_eq_some_iff.1 hrest
  exact ⟨content, qs', rfl⟩

structure Cut (before after : List Char) (ps qs : List Piece) (name : List Char)
    (names : List (List Char)) (fs gs : List Event) : Prop where
  front : pieces (Event.afterMark before) = some ps
  back : pieces after = some qs
  clean : Clean ps after
  mark : before ≠ [] ∨ ∃ rest, after = '<' :: rest
  leaves : Leaves [] ps (name :: names) fs
  reads : Event.ofPiecesIn (name :: names) qs = some gs

/-- Beside a tag a text is cut inside an element. -/
theorem Beside.exists_cut {before after : List Char} {es : List Event}
    (hplace : Beside before after) (h : Event.ofText? (before ++ after) = some es) :
    ∃ ps qs name names fs gs, Cut before after ps qs name names fs gs ∧ es = fs ++ gs := by
  obtain ⟨ps, hps, hclean, hmark⟩ : ∃ ps, pieces (Event.afterMark before) = some ps ∧
      Clean ps after ∧ (before ≠ [] ∨ ∃ rest, after = '<' :: rest) := by
    cases hplace with
    | @start ps content h =>
      refine ⟨_, h, Or.inl (by simp), Or.inl ?_⟩
      rintro rfl
      rw [Event.afterMark, pieces_nil, Option.some.injEq] at h
      exact List.append_ne_nil_of_right_ne_nil _ (List.cons_ne_nil _ _) h.symm
    | finish h hafter => exact ⟨_, h, Or.inr ⟨_, hafter⟩, Or.inr ⟨_, hafter⟩⟩
  rw [Event.ofText?, afterMark_append hmark, pieces_extend hps hclean] at h
  obtain ⟨all, hall, hread⟩ := Option.bind_eq_some_iff.1 h
  obtain ⟨qs, hqs, rfl⟩ := Option.map_eq_some_iff.1 hall
  have hread : Event.ofPiecesIn [] (ps ++ qs) = some es := hread
  obtain ⟨name, names, fs, hleaves⟩ : ∃ name names fs, Leaves [] ps (name :: names) fs := by
    cases hplace with
    | @start ps' content h =>
      cases hps.symm.trans h
      rw [List.append_assoc] at hread
      obtain ⟨names, fs, hleaves⟩ := Leaves.exists_of_ofPiecesIn hread
      exact ⟨_, names, _, hleaves.append (.openTag names content)⟩
    | finish _ hafter =>
      obtain ⟨names, fs, hleaves⟩ := Leaves.exists_of_ofPiecesIn hread
      obtain ⟨content, qs', rfl⟩ := pieces_endTag (hafter ▸ hqs)
      cases names with
      | nil =>
        rw [hleaves.reads, Event.ofPiecesIn] at hread
        cases hread
      | cons name names => exact ⟨name, names, fs, hleaves⟩
  rw [hleaves.reads] at hread
  obtain ⟨gs, hgs, rfl⟩ := Option.map_eq_some_iff.1 hread
  exact ⟨ps, qs, name, names, fs, gs, ⟨hps, hqs, hclean, hmark, hleaves, hgs⟩, rfl⟩

def Content.single (tag : Tag) : Option (Content × Blanks) → Content
  | none => .empty tag .nil
  | some (inner, gap) => .element tag inner gap .nil

structure Written (text : List Char) (tag : Tag) (inside : Option (Content × Blanks)) : Prop where
  opens : ∃ rest, text = '<' :: rest
  cut : pieces text = some (Content.single tag inside).pieces

theorem clean_single (tag : Tag) (inside : Option (Content × Blanks)) (after : List Char) :
    Clean (Content.single tag inside).pieces after := by
  left
  intro raw
  rcases inside with - | ⟨inner, gap⟩
  · simp [Content.single, Content.pieces]
  · simp [Content.single, Content.pieces, List.getLast?_cons]

namespace Cut
variable {before after element name : List Char} {ps qs : List Piece}
  {names : List (List Char)} {fs gs : List Event}

theorem ofText?_before (h : Cut before after ps qs name names fs gs) :
    Event.ofText? before = some fs := by
  have hreads := h.leaves.reads []
  rw [List.append_nil, Event.ofPiecesIn, Option.map_some, List.append_nil] at hreads
  rw [Event.ofText?, h.front]
  exact hreads

theorem ofText?_insert (h : Cut before after ps qs name names fs gs) {tag : Tag}
    {inside : Option (Content × Blanks)} (helement : Written element tag inside) :
    Event.ofText? (before ++ (element ++ after)) =
      some (fs ++ ((Content.single tag inside).events ++ gs)) := by
  obtain ⟨rest, hopens⟩ := helement.opens
  have hbegins : ∃ rest, element ++ after = '<' :: rest := ⟨rest ++ after, by rw [hopens]; rfl⟩
  have hback : pieces (element ++ after) = some ((Content.single tag inside).pieces ++ qs) := by
    rw [pieces_extend helement.cut (clean_single tag inside after), h.back]
    rfl
  have hall : pieces (Event.afterMark (before ++ (element ++ after))) =
      some (ps ++ ((Content.single tag inside).pieces ++ qs)) := by
    rw [afterMark_append (Or.inr hbegins), pieces_extend h.front (Or.inr hbegins), hback]
    rfl
  rw [Event.ofText?, hall, Option.bind_some, Event.ofPieces?, h.leaves.reads,
    Content.ofPiecesIn_pieces, h.reads]
  rfl

end Cut

end OrgPipeline.Xml
