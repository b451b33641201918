import OrgPipeline.Xml.Event

/-!
# Whole elements

The events of a text nest: no element closes that is not open. Where none is
open at the end, they are whole elements one after another, and the elements
that stand in no other are the roots of the text. A text may have any number of
them.
-/

set_option autoImplicit false

namespace OrgPipeline.Xml

structure Root where
  name : String
  attributes : List Char

inductive Forest : List Event → List Root → Prop where
  | nil : Forest [] []
  | declaration (version : String) (encoding : Option String) {es : List Event}
      {rs : List Root} (rest : Forest es rs) : Forest (.declaration version encoding :: es) rs
  | text (content : String) {es : List Event} {rs : List Root} (rest : Forest es rs) :
      Forest (.text content :: es) rs
  | empty (name : String) (attributes : List Char) {es : List Event} {rs : List Root}
      (rest : Forest es rs) : Forest (.empty name attributes :: es) (⟨name, attributes⟩ :: rs)
  | element (name : String) (attributes : List Char) {inner es : List Event}
      {inside rs : List Root} (content : Forest inner inside) (rest : Forest es rs) :
      Forest (.start name attributes :: (inner ++ .finish :: es)) (⟨name, attributes⟩ :: rs)

/-- How many elements are open after events, from a number of open ones on;
none if one closes that is not open. -/
def depth : Nat → List Event → Option Nat
  | n, [] => some n
  | n, .start _ _ :: es => depth (n + 1) es
  | 0, .finish :: _ => none
  | n + 1, .finish :: es => depth n es
  | n, .declaration _ _ :: es => depth n es
  | n, .empty _ _ :: es => depth n es
  | n, .text _ :: es => depth n es

/-- Events that close so many open elements, with whole elements before, between
and after the ends. -/
inductive Closing : Nat → List Event → Prop where
  | last {es : List Event} {rs : List Root} (rest : Forest es rs) : Closing 0 es
  | close {n : Nat} {inner es : List Event} {rs : List Root} (content : Forest inner rs)
      (rest : Closing n es) : Closing (n + 1) (inner ++ .finish :: es)

namespace Closing

theorem cons {n : Nat} {e : Event} {es : List Event}
    (he : ∀ fs rs, Forest fs rs → ∃ rs', Forest (e :: fs) rs') (h : Closing n es) :
    Closing n (e :: es) := by
  cases h with
  | last rest =>
    obtain ⟨rs', h'⟩ := he _ _ rest
    exact .last h'
  | close content rest =>
    obtain ⟨rs', h'⟩ := he _ _ content
    exact .close h' rest

theorem start {n : Nat} (name : String) (attributes : List Char) {es : List Event}
    (h : Closing (n + 1) es) : Closing n (.start name attributes :: es) := by
  cases h with
  | close content rest =>
    cases rest with
    | last rest => exact .last (.element name attributes content rest)
    | close next rest =>
      have h' := Closing.close (.element name attributes content next) rest
      rwa [List.cons_append, List.append_assoc, List.cons_append] at h'

end Closing

theorem closing_of_depth {n : Nat} {es : List Event} (h : depth n es = some 0) :
    Closing n es := by
  induction es generalizing n with
  | nil =>
    cases h
    exact .last .nil
  | cons e es ih =>
    cases e with
    | declaration version encoding =>
      exact (ih h).cons fun _ rs hf => ⟨rs, .declaration version encoding hf⟩
    | text content => exact (ih h).cons fun _ rs hf => ⟨rs, .text content hf⟩
    | empty name attributes => exact (ih h).cons fun _ rs hf => ⟨_ :: rs, .empty name attributes hf⟩
    | start name attributes => exact (ih h).start name attributes
    | finish =>
      cases n with
      | zero => cases h
      | succ n => exact .close .nil (ih h)

theorem forest_of_depth {es : List Event} (h : depth 0 es = some 0) : ∃ rs, Forest es rs := by
  cases closing_of_depth h with
  | last rest => exact ⟨_, rest⟩

theorem exists_of_declaration? {content : List Char} {d : Event}
    (h : declaration? content = some d) :
    ∃ version encoding, d = .declaration version encoding := by
  unfold declaration? at h
  split at h
  · split at h
    · obtain ⟨encoding, -, rfl⟩ := Option.map_eq_some_iff.1 h
      exact ⟨_, _, rfl⟩
    · cases h
  · cases h

theorem depth_append (n : Nat) (es fs : List Event) :
    depth n (es ++ fs) = (depth n es).bind fun k => depth k fs := by
  induction es generalizing n with
  | nil => rfl
  | cons e es ih =>
    cases e with
    | finish =>
      cases n with
      | zero => rfl
      | succ n => exact ih n
    | start name attributes => exact ih (n + 1)
    | declaration version encoding => exact ih n
    | empty name attributes => exact ih n
    | text content => exact ih n

/-- Inside the elements `names` pieces add these events to those of whatever pieces follow,
and leave the elements `names'` open. -/
structure Leaves (names : List (List Char)) (ps : List Piece) (names' : List (List Char))
    (events : List Event) : Prop where
  reads : ∀ rest, Event.ofPiecesIn names (ps ++ rest) =
    (Event.ofPiecesIn names' rest).map (events ++ ·)
  depth : depth names.length events = some names'.length

namespace Leaves
variable {names names' names'' : List (List Char)} {ps qs : List Piece} {es fs : List Event}

theorem nil (names : List (List Char)) : Leaves names [] names [] where
  reads rest := by simp
  depth := rfl

theorem append (h₁ : Leaves names ps names' es) (h₂ : Leaves names' qs names'' fs) :
    Leaves names (ps ++ qs) names'' (es ++ fs) where
  reads rest := by
    rw [List.append_assoc, h₁.reads, h₂.reads, Option.map_map]
    simp [Function.comp_def]
  depth := by rw [depth_append, h₁.depth, Option.bind_some, h₂.depth]

theorem openTag (names : List (List Char)) (content : List Char) :
    Leaves names [.openTag content] (tagName content :: names)
      [.start (localName content) (tagAttributes content)] where
  reads _ := rfl
  depth := rfl

/-- A piece that can be read adds at most one event. -/
theorem piece {p : Piece} (h : Event.ofPiecesIn names (p :: qs) = some es) :
    ∃ names' fs, Leaves names [p] names' fs := by
  cases p with
  | data raw =>
    simp only [Event.ofPiecesIn, Option.bind_eq_bind, Option.bind_eq_some_iff] at h
    obtain ⟨content, hcontent, -⟩ := h
    refine ⟨names, [.text (String.ofList content)], ?_, rfl⟩
    intro rest
    simp only [List.singleton_append, Event.ofPiecesIn, hcontent, Option.bind_eq_bind,
      Option.bind_some, Option.map_eq_bind, Function.comp_def]
  | characters content => exact ⟨names, [.text (String.ofList content)], fun rest => rfl, rfl⟩
  | openTag content => exact ⟨_, _, openTag names content⟩
  | emptyTag content =>
    exact ⟨names, [.empty (localName content) (tagAttributes content)], fun rest => rfl, rfl⟩
  | closeTag content =>
    cases names with
    | nil => cases h
    | cons name names =>
      simp only [Event.ofPiecesIn] at h
      split at h
      · next hname =>
        refine ⟨names, [.finish], ?_, rfl⟩
        intro rest
        simp only [List.singleton_append, Event.ofPiecesIn, if_pos hname]
      · cases h
  | declaration content =>
    simp only [Event.ofPiecesIn, Option.bind_eq_bind, Option.bind_eq_some_iff] at h
    obtain ⟨d, hd, -⟩ := h
    obtain ⟨version, encoding, rfl⟩ := exists_of_declaration? hd
    refine ⟨names, [.declaration version encoding], ?_, rfl⟩
    intro rest
    simp only [List.singleton_append, Event.ofPiecesIn, hd, Option.bind_eq_bind, Option.bind_some,
      Option.map_eq_bind, Function.comp_def]
  | aside => exact ⟨names, [], fun rest => by simp [Event.ofPiecesIn], rfl⟩

theorem exists_of_ofPiecesIn (h : Event.ofPiecesIn names (ps ++ qs) = some es) :
    ∃ names' fs, Leaves names ps names' fs := by
  induction ps generalizing names es with
  | nil => exact ⟨names, [], .nil names⟩
  | cons p ps ih =>
    obtain ⟨names', fs, hpiece⟩ := piece h
    have hrest := hpiece.reads (ps ++ qs)
    rw [List.singleton_append, ← List.cons_append, h] at hrest
    obtain ⟨gs, hgs, -⟩ := Option.map_eq_some_iff.1 hrest.symm
    obtain ⟨names'', fs', hps⟩ := ih hgs
    exact ⟨names'', fs ++ fs', hpiece.append hps⟩

end Leaves

theorem depth_ofPiecesIn {names : List (List Char)} {ps : List Piece} {es : List Event}
    (h : Event.ofPiecesIn names ps = some es) : ∃ n, depth names.length es = some n := by
  rw [← List.append_nil ps] at h
  obtain ⟨names', fs, hps⟩ := Leaves.exists_of_ofPiecesIn h
  have hall := hps.reads []
  rw [h, Event.ofPiecesIn, Option.map_some, List.append_nil, Option.some.injEq] at hall
  rw [hall]
  exact ⟨_, hps.depth⟩

theorem depth_ofText {cs : List Char} {es : List Event} (h : Event.ofText? cs = some es) :
    ∃ n, depth 0 es = some n := by
  obtain ⟨ps, -, hps⟩ := Option.bind_eq_some_iff.1 h
  exact depth_ofPiecesIn hps

end OrgPipeline.Xml
