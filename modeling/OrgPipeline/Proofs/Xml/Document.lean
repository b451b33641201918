import OrgPipeline.Proofs.Xml.Pieces

/-!
# Documents as trees

Inside an element stand character data, sections, comments and further elements,
one after another. A document is one such element with what surrounds it. The
pieces of a document are those of the tree in the order of the text, and they
are read as the events of the tree.
-/

set_option autoImplicit false

namespace OrgPipeline.Xml

open Text (isMarkupBlank)

def predefined : List (List Char × Char) :=
  [("lt".toList, '<'), ("gt".toList, '>'), ("amp".toList, '&'), ("apos".toList, '\x27'),
    ("quot".toList, '"')]

inductive Numeral (base : Nat) : List Char → Nat → Prop where
  | one {c : Char} {d : Nat} (digit : digitIn? base c = some d) : Numeral base [c] d
  | snoc {cs : List Char} {n : Nat} {c : Char} {d : Nat} (front : Numeral base cs n)
      (digit : digitIn? base c = some d) : Numeral base (cs ++ [c]) (n * base + d)

/-- What stands for a character in a text: the character, a name that is
predefined, or the number of its code point. -/
inductive Stands : List Char → Char → Prop where
  | plain {c : Char} (hopen : c ≠ '<') (hsign : c ≠ '&') : Stands [c] c
  | named {name : List Char} {c : Char} (h : (name, c) ∈ predefined) :
      Stands ('&' :: (name ++ [';'])) c
  | decimal {digits : List Char} {c : Char} (h : Numeral 10 digits c.toNat) (hc : c.toNat ≠ 0) :
      Stands ('&' :: ('#' :: digits ++ [';'])) c
  | hexadecimal {digits : List Char} {c : Char} (h : Numeral 16 digits c.toNat)
      (hc : c.toNat ≠ 0) : Stands ('&' :: ('#' :: 'x' :: digits ++ [';'])) c

theorem digit_not_markup {base : Nat} {c : Char} {d : Nat} (h : digitIn? base c = some d) :
    isMarkup c = false ∧ c ≠ ';' := by
  have hnone {e : Char} (he : digitIn? base e = none) : c ≠ e := by
    rintro rfl
    rw [he] at h
    cases h
  refine ⟨?_, hnone rfl⟩
  simp only [isMarkup, decide_eq_false_iff_not, not_or]
  exact ⟨hnone rfl, hnone rfl, hnone rfl, hnone rfl, hnone rfl⟩

namespace Numeral

variable {base : Nat} {cs : List Char} {n : Nat}

theorem digits (h : Numeral base cs n) : ∀ c ∈ cs, ∃ d, digitIn? base c = some d := by
  induction h with
  | @one c d digit => simpa using ⟨d, digit⟩
  | @snoc cs n c d front digit ih =>
    intro e he
    rcases List.mem_append.1 he with he | he
    · exact ih e he
    · rw [List.mem_singleton.1 he]
      exact ⟨d, digit⟩

theorem not_markup (h : Numeral base cs n) : ∀ c ∈ cs, isMarkup c = false := by
  intro c hc
  obtain ⟨d, hd⟩ := h.digits c hc
  exact (digit_not_markup hd).1

theorem no_end (h : Numeral base cs n) : ';' ∉ cs := by
  intro hc
  obtain ⟨d, hd⟩ := h.digits _ hc
  exact (digit_not_markup hd).2 rfl

theorem number?_eq (h : Numeral base cs n) : number? base cs = some n := by
  have hfold : cs.foldlM (fun n c => (digitIn? base c).map fun d => n * base + d) 0 = some n := by
    induction h with
    | one digit => simp [digit]
    | snoc front digit ih => simp [List.foldlM_append, ih, digit]
  have hne : cs ≠ [] := by
    cases h <;> simp
  simpa [number?, hne] using hfold

theorem numbered?_decimal {c : Char} (h : Numeral 10 cs c.toNat) (hc : c.toNat ≠ 0) :
    numbered? cs = some c := by
  have hvalid : c.toNat.isValidChar := c.valid
  unfold numbered?
  split
  -- the letter of the other base is no decimal digit
  · obtain ⟨d, hd⟩ := h.digits 'x' (by simp)
    exact absurd hd (by simp [digitIn?])
  · simp [h.number?_eq, hc, hvalid]

theorem numbered?_hexadecimal {c : Char} (h : Numeral 16 cs c.toNat) (hc : c.toNat ≠ 0) :
    numbered? ('x' :: cs) = some c := by
  have hvalid : c.toNat.isValidChar := c.valid
  simp [numbered?, h.number?_eq, hc, hvalid]

end Numeral

/-- What stands for a character is the character, or a reference that is read as
it. -/
theorem Stands.cases {cs : List Char} {c : Char} (h : Stands cs c) :
    (cs = [c] ∧ c ≠ '&') ∨
      ∃ body, cs = '&' :: (body ++ [';']) ∧ (∀ x ∈ body, isMarkup x = false) ∧ ';' ∉ body ∧
        reference? body = some c := by
  cases h with
  | plain hopen hsign => exact Or.inl ⟨rfl, hsign⟩
  | @named name _ h =>
    right
    have hall : ∀ e ∈ predefined, e.1.all (fun x => !isMarkup x) = true ∧ ';' ∉ e.1 ∧
        reference? e.1 = some e.2 := by decide
    have he := hall _ h
    exact ⟨name, rfl, not_markup_of_all he.1, he.2⟩
  | @decimal digits _ h hc =>
    right
    refine ⟨'#' :: digits, rfl, ?_, by simp [h.no_end], h.numbered?_decimal hc⟩
    exact List.forall_mem_cons.2 ⟨by decide, h.not_markup⟩
  | @hexadecimal digits _ h hc =>
    right
    refine ⟨'#' :: 'x' :: digits, rfl, ?_, by simp [h.no_end], h.numbered?_hexadecimal hc⟩
    exact List.forall_mem_cons.2 ⟨by decide, List.forall_mem_cons.2 ⟨by decide, h.not_markup⟩⟩

structure Symbol where
  written : List Char
  char : Char
  stands : Stands written char

namespace Symbol

def plain (cs : List Char) (h : ∀ c ∈ cs, c ≠ '<' ∧ c ≠ '&') : List Symbol :=
  cs.attach.map fun c => ⟨[c.val], c.val, .plain (h c.val c.property).1 (h c.val c.property).2⟩

def isBlank (s : Symbol) : Bool := s.written.all isMarkupBlank

def trimmed (run : List Symbol) : List Symbol := (run.dropWhile isBlank).rdropWhile isBlank

def text (run : List Symbol) : List Char := (trimmed run).map Symbol.char

theorem written_cases (s : Symbol) :
    (s.written = [s.char] ∧ s.isBlank = isMarkupBlank s.char) ∨
      ∃ body, s.written = '&' :: (body ++ [';']) ∧ s.isBlank = false := by
  rcases s.stands.cases with ⟨h, -⟩ | ⟨body, h, -⟩
  · exact Or.inl ⟨h, by simp [isBlank, h]⟩
  · exact Or.inr ⟨body, h, by simp [isBlank, h, isMarkupBlank]⟩

theorem trimList_written (run : List Symbol) :
    Text.trimList isMarkupBlank (run.flatMap written) = (trimmed run).flatMap written := by
  refine trimList_flatMap ?_ ?_ ?_ run
  · intro s hs
    rcases s.written_cases with ⟨h, hb⟩ | ⟨body, h, hb⟩
    · exact ⟨s.char, h, hb ▸ hs⟩
    · exact absurd hs (by simp [hb])
  · intro s hs
    rcases s.written_cases with ⟨h, hb⟩ | ⟨body, h, hb⟩
    · exact ⟨s.char, [], h, hb ▸ hs⟩
    · exact ⟨'&', body ++ [';'], h, by decide⟩
  · intro s hs
    rcases s.written_cases with ⟨h, hb⟩ | ⟨body, h, hb⟩
    · exact ⟨s.char, [], h, hb ▸ hs⟩
    · exact ⟨';', '&' :: body, by simp [h], by decide⟩

theorem unescape_written (run : List Symbol) :
    unescape (run.flatMap written) = some (run.map Symbol.char) := by
  unfold unescape
  induction run with
  | nil => rfl
  | cons s run ih =>
    have hstep (rest : List Char) :
        unescapeFrom none (s.written ++ rest) = (unescapeFrom none rest).map (s.char :: ·) := by
      rcases s.stands.cases with ⟨h, hsign⟩ | ⟨body, h, hbody, hend, hreference⟩
      · rw [h, List.singleton_append, unescapeFrom, if_neg hsign]
      · rw [h, unescapeFrom_reference hbody hend hreference]
    rw [List.flatMap_cons, hstep, ih]
    rfl

end Symbol

theorem ofPiecesIn_run (names : List (List Char)) (run : List Symbol) (ps : List Piece) :
    Event.ofPiecesIn names (dataPiece (run.flatMap Symbol.written) ++ ps) =
      (Event.ofPiecesIn names ps).map (dataEvents (Symbol.text run) ++ ·) := by
  apply ofPiecesIn_data
  · rw [Symbol.trimList_written, Symbol.unescape_written]
    rfl
  · intro h
    rw [Symbol.trimList_written, List.map_eq_nil_iff.1 h]
    rfl

def Blanks : Type := { cs : List Char // cs.all isMarkupBlank = true }

/-- An attribute as it is written, with the blanks before it and around its sign of
equality. -/
structure Attribute where
  gap : Blanks
  key : List Char
  before : Blanks
  after : Blanks
  quote : Char
  value : List Symbol
  gap_ne : gap.val ≠ []
  isKey : IsKey key
  isQuote : quote = '"' ∨ quote = '\x27'
  not_quoted : quote ∉ value.flatMap Symbol.written

namespace Attribute

def raw (a : Attribute) : List Char := a.value.flatMap Symbol.written

def written (a : Attribute) : List Char :=
  a.gap.val ++ (a.key ++ (a.before.val ++ '=' :: (a.after.val ++ a.quote :: (a.raw ++ [a.quote]))))

def text (a : Attribute) : String := String.ofList (a.value.map Symbol.char)

theorem nextAttribute_written (a : Attribute) (rest : List Char) :
    nextAttribute (a.written ++ rest) = .found a.key a.raw rest := by
  have h := nextAttribute_spaced a.gap.2 a.isKey a.before.2 a.after.2 a.isQuote a.not_quoted rest
  simpa [written, raw] using h

theorem written_pos (a : Attribute) : 0 < a.written.length := by
  have h := List.length_pos_iff.2 a.gap_ne
  simp only [written, List.length_append]
  omega

theorem unescape_raw (a : Attribute) : unescape a.raw = some (a.value.map Symbol.char) :=
  Symbol.unescape_written a.value

def raw? (key : String) (attributes : List Attribute) : Option (List Char) :=
  (attributes.find? (·.key = key.toList)).map raw

end Attribute

theorem nextAttribute_blanks (blanks : Blanks) : nextAttribute blanks.val = .none := by
  have h : skipBlanks blanks.val = [] :=
    List.dropWhile_eq_nil_iff.2 (List.all_eq_true.1 blanks.2)
  rw [nextAttribute, h]

/-- The search finds the first attribute with the key, if those it goes past are
different from each other or may be alike. -/
theorem findAttribute_written {unique : Bool} {seen : List (List Char)}
    {attributes : List Attribute}
    (hdistinct : unique = true →
      (attributes.map Attribute.key).Nodup ∧ ∀ a ∈ attributes, a.key ∉ seen)
    (key : String) (tail : Blanks) {fuel : Nat} (hfuel : attributes.length ≤ fuel) :
    findAttribute unique key.toList fuel seen
        (attributes.flatMap Attribute.written ++ tail.val) =
      some (Attribute.raw? key attributes) := by
  induction attributes generalizing seen fuel with
  | nil =>
    cases fuel with
    | zero => rfl
    | succ fuel =>
      rw [List.flatMap_nil, List.nil_append, findAttribute, nextAttribute_blanks]
      rfl
  | cons a attributes ih =>
    obtain ⟨fuel, rfl⟩ : ∃ n, fuel = n + 1 := ⟨fuel - 1, by simp at hfuel; omega⟩
    have hseen : (unique && seen.contains a.key) = false := by
      cases unique with
      | false => rfl
      | true => simpa using (hdistinct rfl).2 a (by simp)
    rw [List.flatMap_cons, List.append_assoc, findAttribute, a.nextAttribute_written]
    simp only [hseen, Bool.false_eq_true, if_false]
    by_cases hkey : a.key = key.toList
    · simp [hkey, Attribute.raw?]
    · rw [if_neg hkey, ih ?_ (by simpa using hfuel)]
      · simp [hkey, Attribute.raw?]
      · intro hu
        obtain ⟨hnodup, hnew⟩ := hdistinct hu
        rw [List.map_cons, List.nodup_cons] at hnodup
        refine ⟨hnodup.2, fun b hb => ?_⟩
        rw [List.mem_cons, not_or]
        refine ⟨?_, hnew b (List.mem_cons_of_mem a hb)⟩
        intro e
        exact hnodup.1 (e ▸ List.mem_map_of_mem hb)

theorem length_le_written (attributes : List Attribute) :
    attributes.length ≤ (attributes.flatMap Attribute.written).length := by
  induction attributes with
  | nil => rfl
  | cons a attributes ih =>
    have := a.written_pos
    simp only [List.flatMap_cons, List.length_append, List.length_cons]
    omega

theorem attribute?_written {unique : Bool} {attributes : List Attribute}
    (hdistinct : unique = true → (attributes.map Attribute.key).Nodup) (key : String)
    (tail : Blanks) :
    attribute? unique key (attributes.flatMap Attribute.written ++ tail.val) =
      some (Attribute.raw? key attributes) := by
  refine findAttribute_written (fun hu => ⟨hdistinct hu, fun _ _ => List.not_mem_nil⟩) key tail ?_
  have := length_le_written attributes
  simp only [List.length_append]
  omega

structure Tag where
  name : List Char
  attributes : List Attribute
  tail : Blanks
  name_ne : name ≠ []
  no_blank : name.all (fun c => !isMarkupBlank c) = true
  distinct : (attributes.map Attribute.key).Nodup

namespace Tag

def text (t : Tag) : List Char := t.attributes.flatMap Attribute.written ++ t.tail.val

def content (t : Tag) : List Char := t.name ++ t.text

def localName (t : Tag) : String := String.ofList (localPart t.name)

theorem stop (t : Tag) : t.text = [] ∨ ∃ c cs, t.text = c :: cs ∧ isMarkupBlank c = true := by
  have hblank {cs : List Char} (hne : cs ≠ []) (h : cs.all isMarkupBlank = true)
      (rest : List Char) : ∃ d ds, cs ++ rest = d :: ds ∧ isMarkupBlank d = true := by
    obtain ⟨d, ds, rfl⟩ := List.exists_cons_of_ne_nil hne
    rw [List.all_cons, Bool.and_eq_true] at h
    exact ⟨d, ds ++ rest, rfl, h.1⟩
  unfold text
  cases t.attributes with
  | nil =>
    by_cases htail : t.tail.val = []
    · exact Or.inl htail
    · right
      simpa using hblank htail t.tail.2 []
  | cons a attributes =>
    right
    rw [List.flatMap_cons, Attribute.written, List.append_assoc, List.append_assoc]
    exact hblank a.gap_ne a.gap.2 _

def attribute? (t : Tag) (key : String) : Option String :=
  (t.attributes.find? (·.key = key.toList)).map Attribute.text

theorem attribute?_text (t : Tag) (key : String) :
    Xml.attribute? true key t.text = some (Attribute.raw? key t.attributes) :=
  attribute?_written (fun _ => t.distinct) key t.tail

theorem tagName_content (t : Tag) : tagName t.content = t.name := by
  rw [tagName, content, List.takeWhile_append_of_pos (List.all_eq_true.1 t.no_blank)]
  rcases t.stop with h | ⟨c, cs, h, hc⟩
  · simp [h]
  · simp [h, hc]

theorem tagAttributes_content (t : Tag) : tagAttributes t.content = t.text := by
  rw [tagAttributes, content, List.dropWhile_append_of_pos (List.all_eq_true.1 t.no_blank)]
  rcases t.stop with h | ⟨c, cs, h, hc⟩
  · simp [h]
  · simp [h, hc]

theorem localName_content (t : Tag) : Xml.localName t.content = t.localName := by
  rw [Xml.localName, tagName_content]
  rfl

theorem closedName_name (t : Tag) (gap : Blanks) : closedName (t.name ++ gap.val) = t.name := by
  have hend : Text.dropEndWhile isMarkupBlank (t.name ++ gap.val) = t.name := by
    rw [Text.dropEndWhile_append _ _ _ gap.2, Text.dropEndWhile]
    obtain ⟨c, cs, hc⟩ := List.exists_cons_of_ne_nil (mt List.reverse_eq_nil_iff.1 t.name_ne)
    have hlast := List.all_eq_true.1 t.no_blank c (List.mem_reverse.1 (hc ▸ List.mem_cons_self))
    rw [hc, List.dropWhile_cons_of_neg (by simpa using hlast), ← hc, List.reverse_reverse]
  rw [closedName, hend]
  obtain ⟨c, cs, hc⟩ := List.exists_cons_of_ne_nil t.name_ne
  rw [hc]

end Tag

/-- One thing after another; an element with what is inside it, and the blanks in
the tag that closes it. -/
inductive Content where
  | nil
  | data (run : List Symbol) (rest : Content)
  | characters (cs : List Char) (rest : Content)
  | aside (rest : Content)
  | empty (tag : Tag) (rest : Content)
  | element (tag : Tag) (inner : Content) (gap : Blanks) (rest : Content)

namespace Content

def pieces : Content → List Piece
  | nil => []
  | data run rest => dataPiece (run.flatMap Symbol.written) ++ rest.pieces
  | characters cs rest => .characters cs :: rest.pieces
  | aside rest => .aside :: rest.pieces
  | empty tag rest => .emptyTag tag.content :: rest.pieces
  | element tag inner gap rest =>
    .openTag tag.content :: (inner.pieces ++ .closeTag (tag.name ++ gap.val) :: rest.pieces)

def events : Content → List Event
  | nil => []
  | data run rest => dataEvents (Symbol.text run) ++ rest.events
  | characters cs rest => .text (String.ofList cs) :: rest.events
  | aside rest => rest.events
  | empty tag rest => .empty tag.localName tag.text :: rest.events
  | element tag inner _ rest =>
    .start tag.localName tag.text :: (inner.events ++ .finish :: rest.events)

def text : Content → List Char
  | nil => []
  | data run rest => Symbol.text run ++ rest.text
  | characters cs rest => cs ++ rest.text
  | aside rest | empty _ rest | element _ _ _ rest => rest.text

/-- What the elements with a name contain that stand directly inside, in order. An
element without content may be written as one tag, and does not count then. -/
def named (name : String) : Content → List Content
  | nil => []
  | data _ rest | characters _ rest | aside rest | empty _ rest => rest.named name
  | element tag inner _ rest =>
    if tag.localName = name then inner :: rest.named name else rest.named name

theorem forall_named_element {P : Content → Prop} (name : String) (tag : Tag) (inner : Content)
    (gap : Blanks) (rest : Content) :
    (∀ c ∈ (element tag inner gap rest).named name, P c) ↔
      (tag.localName = name → P inner) ∧ ∀ c ∈ rest.named name, P c := by
  rw [named]
  by_cases h : tag.localName = name <;> simp [h]

def Flat : Content → Prop
  | nil => True
  | data _ rest | characters _ rest | aside rest | empty _ rest => rest.Flat
  | element _ _ _ _ => False

instance decidableFlat : (c : Content) → Decidable c.Flat
  | nil => inferInstanceAs (Decidable True)
  | data _ rest | characters _ rest | aside rest | empty _ rest => decidableFlat rest
  | element _ _ _ _ => inferInstanceAs (Decidable False)

def asides : Nat → Content → Content
  | 0, c => c
  | n + 1, c => aside (asides n c)

theorem events_asides (n : Nat) (c : Content) : (asides n c).events = c.events := by
  induction n with
  | zero => rfl
  | succ n ih => exact ih

/-- The pieces of a tree are read as the events of the tree, whatever elements are
open and whatever follows. -/
theorem ofPiecesIn_pieces (c : Content) (names : List (List Char)) (ps : List Piece) :
    Event.ofPiecesIn names (c.pieces ++ ps) =
      (Event.ofPiecesIn names ps).map (c.events ++ ·) := by
  induction c generalizing names ps with
  | nil => simp [pieces, events]
  | data run rest ih =>
    rw [pieces, List.append_assoc, ofPiecesIn_run, ih, Option.map_map]
    simp [events, Function.comp_def]
  | characters cs rest ih =>
    rw [pieces, List.cons_append, Event.ofPiecesIn, ih, Option.map_map]
    rfl
  | aside rest ih => exact ih names ps
  | empty tag rest ih =>
    rw [pieces, List.cons_append, Event.ofPiecesIn, ih, Option.map_map, tag.localName_content,
      tag.tagAttributes_content]
    rfl
  | element tag inner gap rest ihinner ihrest =>
    rw [pieces, List.cons_append, List.append_assoc, Event.ofPiecesIn, ihinner,
      tag.tagName_content, List.cons_append, Event.ofPiecesIn, if_pos (tag.closedName_name gap),
      ihrest, Option.map_map, Option.map_map, Option.map_map, tag.localName_content,
      tag.tagAttributes_content]
    simp [events, Function.comp_def]

end Content

/-- The line before a document that says how it is written; the version comes
first. -/
structure Declaration where
  version : Attribute
  others : List Attribute
  tail : Blanks
  names_version : version.key = "version".toList

namespace Declaration

def content (d : Declaration) : List Char :=
  (d.version :: d.others).flatMap Attribute.written ++ d.tail.val

def encoding? (d : Declaration) : Option String :=
  (Attribute.raw? "encoding" d.others).map String.ofList

def event (d : Declaration) : Event := .declaration (String.ofList d.version.raw) d.encoding?

theorem declaration?_content (d : Declaration) : declaration? d.content = some d.event := by
  have hfirst : nextAttribute d.content = .found "version".toList d.version.raw
      (d.others.flatMap Attribute.written ++ d.tail.val) := by
    rw [content, List.flatMap_cons, List.append_assoc, Attribute.nextAttribute_written,
      d.names_version]
  have hother : d.version.key ≠ "encoding".toList := by
    rw [d.names_version]
    decide
  have hencoding : attribute? false "encoding" d.content =
      some (Attribute.raw? "encoding" d.others) := by
    rw [content, attribute?_written (by simp)]
    simp only [Attribute.raw?, List.find?_cons, decide_eq_false hother]
  unfold declaration?
  rw [hfirst]
  simp only [if_true, hencoding, Option.map_some]
  rfl

end Declaration

/-- One element, before which the document may be declared and around which there
may be comments, instructions and a document type. -/
structure Document where
  declaration : Option Declaration
  before : Nat
  root : Tag
  /-- What is inside the root, and the blanks in the tag that closes it; none if one
  tag is the whole of it. -/
  inside : Option (Content × Blanks)
  after : Nat

namespace Document

def rootElement (d : Document) (rest : Content) : Content :=
  match d.inside with
  | none => .empty d.root rest
  | some (inner, gap) => .element d.root inner gap rest

def body (d : Document) : Content := .asides d.before (d.rootElement (.asides d.after .nil))

def pieces (d : Document) : List Piece :=
  (d.declaration.toList.map fun x => .declaration x.content) ++ d.body.pieces

def events (d : Document) : List Event :=
  d.declaration.toList.map Declaration.event ++ d.body.events

def content (d : Document) : Content :=
  match d.inside with
  | none => .nil
  | some (inner, _) => inner

theorem ofPieces?_pieces (d : Document) : Event.ofPieces? d.pieces = some d.events := by
  have hbody : Event.ofPiecesIn [] d.body.pieces = some d.body.events := by
    have h := d.body.ofPiecesIn_pieces [] []
    simpa [Event.ofPiecesIn] using h
  unfold Event.ofPieces? pieces events
  cases hd : d.declaration with
  | none => exact hbody
  | some x => simp [Event.ofPiecesIn, x.declaration?_content, hbody]

end Document
end OrgPipeline.Xml
