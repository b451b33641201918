import OrgPipeline.Proofs.Manifest.Document
import OrgPipeline.Proofs.Xml.Cutting

/-!
# Elements that are put into a manifest

What counts for the manifest is found one after another: where an entry begins and ends,
and the texts that are taken. Which of it is found depends on the open elements and on the
text element that is awaited, not on what has been found before. So an element that leaves
these as they were leaves the manifest as it was. In a text element that is awaited it does
not, since whatever closes first is taken for the end of the text element.
-/

set_option autoImplicit false

namespace OrgPipeline.Manifest

open Xml

inductive Finding where
  | declaration (version : String) (encoding : Option String)
  | xmlns (value : Option String)
  | entry
  | text (element : TextElement) (content : String)
  | endOfEntry

def Finding.IsDeclaration (x : Finding) : Prop :=
  ∃ version encoding, x = .declaration version encoding

structure Draft where
  manifest : Manifest
  entry : Option ManifestType

namespace Draft

def add (d : Draft) : Finding → Draft
  | .declaration version encoding =>
    let m := d.manifest
    { d with manifest :=
      { m with xmlVersion := some version, encoding := encoding <|> m.encoding } }
  | .xmlns value => { d with manifest := { d.manifest with xmlns := value } }
  | .entry => { d with entry := some ⟨none, []⟩ }
  | .text .version content =>
    { d with manifest := { d.manifest with version := some content } }
  | .text .member content =>
    { d with entry := d.entry.map fun e => { e with members := e.members ++ [content] } }
  | .text .name content => { d with entry := d.entry.map fun e => { e with name := some content } }
  | .endOfEntry =>
    match d.entry with
    | some e => ⟨{ d.manifest with types := d.manifest.types ++ [e] }, none⟩
    | none => d

def addAll (d : Draft) (findings : List Finding) : Draft := findings.foldl add d

theorem addAll_append (d : Draft) (first rest : List Finding) :
    d.addAll (first ++ rest) = (d.addAll first).addAll rest :=
  List.foldl_append

theorem addAll_cons (d : Draft) (x : Finding) (rest : List Finding) :
    d.addAll (x :: rest) = (d.add x).addAll rest := rfl

theorem addAll_declarations_text (d : Draft) {declarations : List Finding}
    (h : ∀ x ∈ declarations, x.IsDeclaration)
    (element : TextElement) (content : String) :
    (d.addAll declarations).add (.text element content) =
      (d.add (.text element content)).addAll declarations := by
  induction declarations generalizing d with
  | nil => rfl
  | cons x rest ih =>
    rw [List.forall_mem_cons] at h
    obtain ⟨⟨version, encoding, rfl⟩, hrest⟩ := h
    have hswap : (d.add (.declaration version encoding)).add (.text element content) =
        (d.add (.text element content)).add (.declaration version encoding) := by
      cases element <;> rfl
    rw [addAll_cons, addAll_cons, ih _ hrest, hswap]

end Draft

def found (findings : List Finding) : Manifest := (Draft.addAll ⟨.empty, none⟩ findings).manifest

def TextElement.place : TextElement → List String
  | member => ["Package", "types", "members"]
  | name => ["Package", "types", "name"]
  | version => ["Package", "version"]

def textElement? (path : List String) : Option TextElement :=
  [TextElement.member, .name, .version].find? fun element => element.place = path

theorem place_of_textElement? {path : List String} {element : TextElement}
    (h : textElement? path = some element) : element.place = path := by
  simpa using List.find?_some h

namespace Progress

theorem opened_eq (p : Progress) (name : String) (attributes : List Char) :
    p.opened name attributes =
      if p.path = [] ∧ name = "Package" then
        (xmlns? attributes).map fun v =>
          { p with manifest := { p.manifest with xmlns := v }, text := "", path := [name] }
      else some
        { p with
          entry := if p.path = ["Package"] ∧ name = "types" then some ⟨none, []⟩ else p.entry
          awaited := textElement? (p.path ++ [name]) <|> p.awaited
          text := ""
          path := p.path ++ [name] } := by
  unfold opened
  split
  · next hp =>
    rw [hp]
    cases xmlns? attributes <;> rfl
  · next hp => simp [hp, textElement?, TextElement.place]
  · next hp => simp [hp, textElement?, TextElement.place]
  · next hp => simp [hp, textElement?, TextElement.place]
  · next hp => simp [hp, textElement?, TextElement.place]
  · next name _ _ hroot hentry hversion hmember hname =>
    have hplace : textElement? (p.path ++ [name]) = none := by
      refine List.find?_eq_none.2 fun element _ heq => ?_
      have hpath := congrArg List.dropLast (of_decide_eq_true heq)
      have hlast := congrArg List.getLast? (of_decide_eq_true heq)
      rw [List.dropLast_concat] at hpath
      rw [List.getLast?_concat] at hlast
      cases element with
      | member => exact hmember hpath.symm (Option.some.inj hlast).symm
      | name => exact hname hpath.symm (Option.some.inj hlast).symm
      | version => exact hversion hpath.symm (Option.some.inj hlast).symm
    rw [if_neg fun h => hroot h.1 h.2, if_neg fun h => hentry h.1 h.2, hplace]
    rfl

def draft (p : Progress) : Draft := ⟨p.manifest, p.entry⟩

def finds (p : Progress) : Xml.Event → List Finding
  | .declaration version encoding => [.declaration version encoding]
  | .start name attributes =>
    if p.path = [] ∧ name = "Package" then (xmlns? attributes).toList.map .xmlns
    else if p.path = ["Package"] ∧ name = "types" then [.entry]
    else []
  | .empty name attributes =>
    if p.path = [] ∧ name = "Package" then (xmlns? attributes).toList.map .xmlns else []
  | .finish =>
    match p.awaited with
    | some element => [.text element p.text]
    | none =>
      if p.path.getLast? = some "types" ∧ p.path.dropLast.length = 1 then [.endOfEntry] else []
  | .text _ => []

def findings : Progress → List Xml.Event → List Finding
  | _, [] => []
  | p, e :: rest =>
    match p.step e with
    | some q => p.finds e ++ findings q rest
    | none => []

section
variable {p q : Progress} {e : Xml.Event} {es : List Xml.Event}

theorem findings_cons (h : p.step e = some q) (rest : List Xml.Event) :
    p.findings (e :: rest) = p.finds e ++ q.findings rest := by
  rw [findings, h]

theorem findings_append (h : p.run es = some q) (rest : List Xml.Event) :
    p.findings (es ++ rest) = p.findings es ++ q.findings rest := by
  induction es generalizing p with
  | nil =>
    cases h
    rfl
  | cons e es ih =>
    obtain ⟨r, hstep, hrun⟩ := Option.bind_eq_some_iff.1 h
    rw [List.cons_append, findings_cons hstep, findings_cons hstep, ih hrun, List.append_assoc]

theorem draft_opened {name : String} {attributes : List Char}
    (h : p.opened name attributes = some q) :
    q.draft = p.draft.addAll (p.finds (.start name attributes)) := by
  rw [opened_eq] at h
  rw [finds]
  split at h
  · next hroot =>
    obtain ⟨v, hv, rfl⟩ := Option.map_eq_some_iff.1 h
    rw [if_pos hroot, hv]
    rfl
  · next hroot =>
    cases h
    rw [if_neg hroot]
    by_cases hentry : p.path = ["Package"] ∧ name = "types"
    · simp only [if_pos hentry, draft]
      rfl
    · simp only [if_neg hentry, draft]
      rfl

theorem draft_closed (p : Progress) : p.closed.draft = p.draft.addAll (p.finds .finish) := by
  unfold closed
  rw [finds]
  cases p.awaited with
  | some element =>
    cases element with
    | version => rfl
    | member => cases hentry : p.entry <;> simp [taken, draft, Draft.addAll, Draft.add, hentry]
    | name => cases hentry : p.entry <;> simp [taken, draft, Draft.addAll, Draft.add, hentry]
  | none =>
    simp only
    split
    · cases hentry : p.entry <;> simp [draft, Draft.addAll, Draft.add, hentry]
    · rfl

theorem draft_step (h : p.step e = some q) : q.draft = p.draft.addAll (p.finds e) := by
  cases e with
  | declaration version encoding =>
    cases h
    rfl
  | start name attributes => exact draft_opened h
  | empty name attributes =>
    rw [step] at h
    rw [finds]
    split at h
    · next hroot =>
      obtain ⟨v, hv, rfl⟩ := Option.map_eq_some_iff.1 h
      rw [if_pos hroot, hv]
      rfl
    · next hroot =>
      cases h
      rw [if_neg hroot]
      rfl
  | finish =>
    cases h
    exact draft_closed p
  | text content =>
    cases h
    rfl

theorem draft_run (h : p.run es = some q) : q.draft = p.draft.addAll (p.findings es) := by
  induction es generalizing p with
  | nil =>
    cases h
    rfl
  | cons e es ih =>
    obtain ⟨r, hstep, hrun⟩ := Option.bind_eq_some_iff.1 h
    rw [findings_cons hstep, Draft.addAll_append, ← draft_step hstep, ih hrun]

end

structure Alike (p q : Progress) : Prop where
  path : q.path = p.path
  awaited : q.awaited = p.awaited
  text : p.awaited ≠ none → q.text = p.text

theorem closed_awaited (p : Progress) : p.closed.awaited = none := by
  unfold closed
  cases p.awaited with
  | some element =>
    cases element with
    | version => rfl
    | member =>
      simp only [taken]
      split <;> rfl
    | name =>
      simp only [taken]
      split <;> rfl
  | none =>
    simp only
    split
    · split <;> rfl
    · rfl

theorem alike_closed {p q : Progress} (hpath : q.path = p.path) : Alike p.closed q.closed where
  path := by rw [closed_path, closed_path, hpath]
  awaited := by rw [closed_awaited, closed_awaited]
  text h := absurd (closed_awaited p) h

theorem Alike.step {p q p' : Progress} {e : Xml.Event} (h : Alike p q) (hp : p.step e = some p') :
    q.finds e = p.finds e ∧ ∃ q', q.step e = some q' ∧ Alike p' q' := by
  cases e with
  | declaration version encoding =>
    cases hp
    exact ⟨rfl, _, rfl, h.path, h.awaited, h.text⟩
  | start name attributes =>
    refine ⟨by simp only [finds, h.path], ?_⟩
    simp only [Progress.step, opened_eq, h.path, h.awaited] at hp ⊢
    split at hp
    · next hroot =>
      obtain ⟨v, hv, rfl⟩ := Option.map_eq_some_iff.1 hp
      rw [if_pos hroot, hv]
      exact ⟨_, rfl, rfl, rfl, fun _ => rfl⟩
    · next hroot =>
      cases hp
      rw [if_neg hroot]
      exact ⟨_, rfl, rfl, rfl, fun _ => rfl⟩
  | empty name attributes =>
    refine ⟨by simp only [finds, h.path], ?_⟩
    simp only [Progress.step, h.path] at hp ⊢
    split at hp
    · next hroot =>
      obtain ⟨v, hv, rfl⟩ := Option.map_eq_some_iff.1 hp
      rw [if_pos hroot, hv]
      exact ⟨_, rfl, rfl, h.awaited, h.text⟩
    · next hroot =>
      cases hp
      rw [if_neg hroot]
      exact ⟨_, rfl, h⟩
  | finish =>
    cases hp
    refine ⟨?_, _, rfl, alike_closed h.path⟩
    cases hawaited : p.awaited with
    | none => simp only [finds, h.awaited, hawaited, h.path]
    | some element =>
      have htext := h.text (by simp [hawaited])
      simp only [finds, h.awaited, hawaited, htext]
  | text content =>
    cases hp
    exact ⟨rfl, _, rfl, h.path, h.awaited, fun hne => congrArg (· ++ content) (h.text hne)⟩

theorem Alike.run {p q p' : Progress} {es : List Xml.Event} (h : Alike p q)
    (hp : p.run es = some p') :
    q.findings es = p.findings es ∧ ∃ q', q.run es = some q' ∧ Alike p' q' := by
  induction es generalizing p q with
  | nil =>
    cases hp
    exact ⟨rfl, q, rfl, h⟩
  | cons e es ih =>
    obtain ⟨p₁, hstep, hrest⟩ := Option.bind_eq_some_iff.1 hp
    obtain ⟨hfinds, q₁, hq, h₁⟩ := h.step hstep
    obtain ⟨hfindings, q', hq', h'⟩ := ih h₁ hrest
    refine ⟨?_, q', ?_, h'⟩
    · rw [findings_cons hstep, findings_cons hq, hfinds, hfindings]
    · rw [Progress.run, hq, Option.bind_some, hq']

def Placed (p : Progress) : Prop := ∀ element, p.awaited = some element → element.place <+: p.path

theorem Placed.step {p q : Progress} {e : Xml.Event} (h : Placed p) (hp : p.step e = some q) :
    Placed q := by
  cases e with
  | declaration version encoding | text content =>
    cases hp
    exact h
  | start name attributes =>
    simp only [Progress.step, opened_eq] at hp
    split at hp
    · next hroot =>
      obtain ⟨v, -, rfl⟩ := Option.map_eq_some_iff.1 hp
      intro element helement
      have hprefix := h element helement
      rw [hroot.1, List.prefix_nil] at hprefix
      cases element <;> cases hprefix
    · cases hp
      intro element helement
      cases hplace : textElement? (p.path ++ [name]) with
      | none =>
        rw [hplace] at helement
        exact (h element helement).trans (List.prefix_append _ _)
      | some other =>
        rw [hplace] at helement
        cases helement
        exact ⟨[], (List.append_nil _).trans (place_of_textElement? hplace)⟩
  | empty name attributes =>
    simp only [Progress.step] at hp
    split at hp
    · obtain ⟨v, -, rfl⟩ := Option.map_eq_some_iff.1 hp
      exact h
    · cases hp
      exact h
  | finish =>
    cases hp
    intro element helement
    rw [closed_awaited] at helement
    cases helement

theorem Placed.run {p q : Progress} {es : List Xml.Event} (h : Placed p) (hp : p.run es = some q) :
    Placed q := by
  induction es generalizing p with
  | nil =>
    cases hp
    exact h
  | cons e es ih =>
    obtain ⟨r, hstep, hrest⟩ := Option.bind_eq_some_iff.1 hp
    exact ih (h.step hstep) hrest

theorem placed_start : Placed .start := nofun

theorem passed_of_place {path : List String} {element : TextElement}
    (h : element.place <+: path) : Passed path := by
  obtain ⟨rest, rfl⟩ := h
  cases element with
  | member | name => exact ⟨by simp [TextElement.place], by simp [TextElement.place]⟩
  | version => exact ⟨by simp [TextElement.place], by simp [TextElement.place]⟩

structure Spent (element : TextElement) (p q : Progress) : Prop where
  awaited : p.awaited = some element
  place : element.place <+: p.path
  path : q.path = p.path
  taken : q.awaited = none

theorem no_entry_of_place {path : List String} {element : TextElement}
    (h : element.place <+: path) :
    ¬(path.getLast? = some "types" ∧ path.dropLast.length = 1) := by
  obtain ⟨rest, rfl⟩ := h
  rintro ⟨hlast, hlength⟩
  cases element with
  | member | name =>
    simp [TextElement.place] at hlength
  | version =>
    have hrest : rest = [] := by simpa [TextElement.place] using hlength
    subst hrest
    exact absurd hlast (by decide)

/-- Until the next end both readers find the same, declarations at most; there the first
finds the text element and the second nothing. -/
theorem Spent.step {element : TextElement} {p q p' : Progress} {e : Xml.Event}
    (h : Spent element p q) (hp : p.step e = some p') :
    ∃ q', q.step e = some q' ∧
      ((Spent element p' q' ∧ q.finds e = p.finds e ∧ ∀ x ∈ p.finds e, x.IsDeclaration) ∨
        (Alike p' q' ∧ p.finds e = [.text element p.text] ∧ q.finds e = [])) := by
  have hpassed := passed_of_place h.place
  have hroot := hpassed.ne_nil
  have hpackage : p.path ≠ ["Package"] := fun heq => hpassed.length_ne_one (by rw [heq]; rfl)
  cases e with
  | declaration version encoding =>
    cases hp
    exact ⟨_, rfl, Or.inl ⟨⟨h.awaited, h.place, h.path, h.taken⟩, rfl,
      fun x hx => ⟨version, encoding, List.mem_singleton.1 hx⟩⟩⟩
  | start name attributes =>
    have hfinds {r : Progress} (hr : r.path = p.path) : r.finds (.start name attributes) = [] := by
      rw [finds, hr, if_neg fun heq => hroot heq.1, if_neg fun heq => hpackage heq.1]
    cases (opened_passed hpassed name attributes).symm.trans hp
    refine ⟨_, opened_passed (h.path ▸ hpassed) name attributes, Or.inl ⟨?_, ?_, ?_⟩⟩
    · exact ⟨h.awaited, h.place.trans (List.prefix_append _ _), congrArg (· ++ [name]) h.path,
        h.taken⟩
    · rw [hfinds h.path, hfinds rfl]
    · rw [hfinds rfl]
      exact List.forall_mem_nil _
  | empty name attributes =>
    have hfinds {r : Progress} (hr : r.path = p.path) : r.finds (.empty name attributes) = [] := by
      rw [finds, hr, if_neg fun heq => hroot heq.1]
    have hstep {r : Progress} (hr : r.path = p.path) : r.step (.empty name attributes) = some r :=
      if_neg fun heq => hroot (hr ▸ heq.1)
    cases (hstep rfl).symm.trans hp
    refine ⟨q, hstep h.path, Or.inl ⟨h, ?_, ?_⟩⟩
    · rw [hfinds h.path, hfinds rfl]
    · rw [hfinds rfl]
      exact List.forall_mem_nil _
  | finish =>
    cases hp
    refine ⟨_, rfl, Or.inr ⟨alike_closed h.path, ?_, ?_⟩⟩
    · simp only [finds, h.awaited]
    · simp only [finds, h.taken, h.path, if_neg (no_entry_of_place h.place)]
  | text content =>
    cases hp
    exact ⟨_, rfl, Or.inl ⟨⟨h.awaited, h.place, h.path, h.taken⟩, rfl, List.forall_mem_nil _⟩⟩

theorem Spent.run {element : TextElement} {p q p' : Progress} {es : List Xml.Event}
    (h : Spent element p q) (hp : p.run es = some p') (hpath : p'.path = []) :
    ∃ declarations content rest q',
      (∀ x ∈ declarations, x.IsDeclaration) ∧
        p.findings es = declarations ++ .text element content :: rest ∧
        q.findings es = declarations ++ rest ∧ q.run es = some q' ∧ q'.path = [] := by
  induction es generalizing p q with
  | nil =>
    cases hp
    exact absurd (passed_of_place h.place).1 (by simp [hpath])
  | cons e es ih =>
    obtain ⟨p₁, hstep, hrest⟩ := Option.bind_eq_some_iff.1 hp
    obtain ⟨q₁, hq, ⟨hspent, hsame, hdeclared⟩ | ⟨halike, hfirst, hsecond⟩⟩ := h.step hstep
    · obtain ⟨declarations, content, rest, q', hall, hp', hq', hrun, hend⟩ := ih hspent hrest
      refine ⟨p.finds e ++ declarations, content, rest, q',
        List.forall_mem_append.2 ⟨hdeclared, hall⟩, ?_, ?_, ?_, hend⟩
      · rw [findings_cons hstep, hp', List.append_assoc]
      · rw [findings_cons hq, hsame, hq', List.append_assoc]
      · rw [Progress.run, hq, Option.bind_some, hrun]
    · obtain ⟨hsame, q', hrun, hend⟩ := halike.run hrest
      refine ⟨[], p.text, p₁.findings es, q', List.forall_mem_nil _, ?_, ?_, ?_,
        hend.path.trans hpath⟩
      · rw [findings_cons hstep, hfirst]
        rfl
      · rw [findings_cons hq, hsecond, hsame]
      · rw [Progress.run, hq, Option.bind_some, hrun]

end Progress

def firstClosed : Content → Option Content
  | .nil => none
  | .data _ rest | .characters _ rest | .aside rest | .empty _ rest => firstClosed rest
  | .element _ inner _ _ => some ((firstClosed inner).getD inner)

theorem flat_of_firstClosed {c : Content} (h : firstClosed c = none) : c.Flat := by
  induction c with
  | nil => trivial
  | data _ _ ih | characters _ _ ih | aside _ ih | empty _ _ ih => exact ih h
  | element tag inner gap rest => cases h

def knownNames : List String := [packageName, "types", "members", "name", "version"]

namespace Progress
variable {p : Progress}

theorem opened_foreign (hpath : p.path ≠ []) {name : String} (hname : name ∉ knownNames)
    (attributes : List Char) :
    p.opened name attributes = some { p with text := "", path := p.path ++ [name] } := by
  have htypes : name ≠ "types" := by
    rintro rfl
    exact hname (by decide)
  have hplace : textElement? (p.path ++ [name]) = none := by
    by_contra hne
    obtain ⟨element, helement⟩ := Option.ne_none_iff_exists'.1 hne
    have hlast := congrArg List.getLast? (place_of_textElement? helement)
    rw [List.getLast?_concat] at hlast
    refine hname ?_
    cases element <;> cases hlast <;> decide
  rw [opened_eq, if_neg fun h => hpath h.1, if_neg fun h => htypes h.2, hplace]
  rfl

/-- Nothing is found in an element with a name that is not known, if it is one empty tag or
no text element is awaited. -/
theorem run_foreign {tag : Tag} {inside : Option (Content × Blanks)} (hpath : p.path ≠ [])
    (hname : tag.localName ∉ knownNames) (h : inside = none ∨ p.awaited = none) :
    ∃ q, run p (Content.single tag inside).events = some q ∧ Alike p q ∧ q.draft = p.draft := by
  rcases inside with - | ⟨inner, gap⟩
  · exact ⟨p, run_empty hpath _ _ [], ⟨rfl, rfl, fun _ => rfl⟩, rfl⟩
  · have hawaited : p.awaited = none := h.resolve_left nofun
    have htypes : tag.localName ≠ "types" := fun heq => hname (by rw [heq]; decide)
    have hpassed : Passed (p.path ++ [tag.localName]) := by
      refine ⟨?_, fun heq => ?_⟩
      · have := List.length_pos_iff.2 hpath
        simp only [List.length_append, List.length_singleton]
        omega
      · have hlast := congrArg List.getLast? heq
        rw [List.getLast?_concat] at hlast
        exact htypes (Option.some.inj hlast)
    obtain ⟨text, hrun⟩ := run_passed_element inner rfl hpassed (opened_foreign hpath hname _)
      (fun heq => absurd heq htypes) hawaited []
    exact ⟨_, hrun, ⟨rfl, rfl, fun h => absurd hawaited h⟩, rfl⟩

/-- Where a text element is awaited, the first element to close is taken for it. -/
theorem run_awaited {c inner : Content} {element : TextElement} (hc : firstClosed c = some inner)
    (hpath : Passed p.path) (hawaited : p.awaited = some element) :
    ∃ q, run p c.events = some q ∧ q.path = p.path ∧ q.awaited = none ∧
      q.draft = p.draft.add (.text element (textOf inner)) := by
  induction c generalizing p inner with
  | nil => cases hc
  | data run rest ih =>
    rw [Content.events, run_dataEvents]
    exact ih hc hpath hawaited
  | characters cs rest ih => exact ih (p := { p with text := _ }) hc hpath hawaited
  | aside rest ih => exact ih hc hpath hawaited
  | empty tag rest ih =>
    rw [Content.events, run_empty hpath.ne_nil]
    exact ih hc hpath hawaited
  | element tag content gap rest ihcontent _ =>
    cases hc
    let opened := { p with text := "", path := p.path ++ [tag.localName] }
    obtain ⟨r, hrun, hrpath, hrdraft⟩ : ∃ r, run opened content.events = some r ∧
        r.path = opened.path ∧ r.closed.draft =
          p.draft.add (.text element (textOf ((firstClosed content).getD content))) := by
      cases hfirst : firstClosed content with
      -- no element inside closes before this one
      | none =>
        refine ⟨_, run_flat (flat_of_firstClosed hfirst) (by simp [opened]), rfl, ?_⟩
        simp only [draft_closed, finds, opened, hawaited, String.empty_append]
        rfl
      | some first =>
        obtain ⟨r, hrun, hrpath, hrawaited, hrdraft⟩ :=
          ihcontent (p := opened) hfirst (hpath.append tag.localName) hawaited
        have hdeep : ¬(r.path.getLast? = some "types" ∧ r.path.dropLast.length = 1) := by
          rw [hrpath, List.dropLast_concat]
          exact fun h => hpath.length_ne_one h.2
        refine ⟨r, hrun, hrpath, ?_⟩
        rw [draft_closed, finds, hrawaited]
        simp only [if_neg hdeep]
        exact hrdraft
    have hback : r.closed.path = p.path := by rw [closed_path, hrpath, List.dropLast_concat]
    obtain ⟨text, hrest⟩ := run_passed rest (p := r.closed) (hback ▸ hpath) (closed_awaited r)
    refine ⟨{ r.closed with text := text }, ?_, hback, closed_awaited r, hrdraft⟩
    rw [Content.events, run_element (opened_passed hpath _ _) hrun, hrest]

end Progress

def Reaches (text : String) (p : Progress) : Prop :=
  ∃ events, Event.ofText? text.toList = some events ∧ Progress.run .start events = some p

def Finds (text : String) (findings : List Finding) : Prop :=
  ∃ events, Event.ofText? text.toList = some events ∧ Progress.findings .start events = findings

theorem readText_of_run {cs : List Char} {events : List Xml.Event} {p : Progress}
    (hevents : Event.ofText? cs = some events) (hrun : Progress.run .start events = some p)
    (hpath : p.path = []) : readText cs = .ok p.manifest := by
  rw [readText, hevents]
  simp [ofEvents, hrun, hpath]

/-- An element whose name is not known, put directly after a start tag or directly before
an end tag of a document that is read. If it is one empty tag, or if no text element is
awaited at this place, the manifest is the same. A text element is awaited only inside that
element. There the manifest is not the same: of all that is found in the document one text
is another one, the text of what closes first in the new element. -/
theorem parse_insert {before element after label : String} {m : Manifest} {tag : Tag}
    {inside : Option (Content × Blanks)} (hparse : parse (before ++ after) label = .ok m)
    (hplace : Beside before.toList after.toList) (helement : Written element.toList tag inside)
    (hforeign : tag.localName ∉ knownNames) :
    ∃ p, Reaches before p ∧
      (inside = none ∨ p.awaited = none →
        parse (before ++ element ++ after) label = .ok m) ∧
      (∀ t, p.awaited = some t → t.place <+: p.path) ∧
      ∀ t inner gap, p.awaited = some t → inside = some (inner, gap) →
        ∃ first old rest, Finds (before ++ after) (first ++ .text t old :: rest) ∧
          m = found (first ++ .text t old :: rest) ∧
          parse (before ++ element ++ after) label =
            .ok (found (first ++ .text t (textOf ((firstClosed inner).getD inner)) :: rest)) := by
  rw [parse_ok_iff_readText, String.toList_append] at hparse
  obtain ⟨events, q, hevents, hrun, hend, rfl⟩ := readText_ok hparse
  obtain ⟨ps, qs, name, names, fs, gs, hcut, rfl⟩ := hplace.exists_cut hevents
  obtain ⟨p, hp, hq⟩ := Option.bind_eq_some_iff.1 ((Progress.run_append _ fs gs).symm.trans hrun)
  have hinside : p.path ≠ [] := by
    have hlength := Progress.length_path_run hp hcut.leaves.depth
    exact List.ne_nil_of_length_pos (by simp [hlength])
  have hplaced := Progress.placed_start.run hp
  have hwhole : (before ++ element ++ after).toList =
      before.toList ++ (element.toList ++ after.toList) := by
    simp
  have hread {r r' : Progress} (hr : p.run (Content.single tag inside).events = some r)
      (hr' : r.run gs = some r') (hpath : r'.path = []) :
      parse (before ++ element ++ after) label = .ok r'.manifest := by
    rw [parse_ok_iff_readText, hwhole]
    refine readText_of_run (hcut.ofText?_insert helement) ?_ hpath
    rw [Progress.run_append, hp, Option.bind_some, Progress.run_append, hr, Option.bind_some, hr']
  refine ⟨p, ⟨fs, hcut.ofText?_before, hp⟩, ?_, hplaced, ?_⟩
  · intro hcase
    obtain ⟨r, hr, halike, hdraft⟩ := Progress.run_foreign hinside hforeign hcase
    obtain ⟨hsame, r', hr', hback⟩ := halike.run hq
    have hdraft' : r'.draft = q.draft := by
      rw [Progress.draft_run hr', Progress.draft_run hq, hsame, hdraft]
    rw [hread hr hr' (hback.path.trans hend)]
    exact congrArg (fun d => Except.ok d.manifest) hdraft'
  · rintro t inner gap hawaited rfl
    have hpassed := Progress.passed_of_place (hplaced t hawaited)
    obtain ⟨r, hr, hpath, htaken, hdraft⟩ :=
      Progress.run_awaited (c := Content.single tag (some (inner, gap))) rfl hpassed hawaited
    have hspent : Progress.Spent t p r := ⟨hawaited, hplaced t hawaited, hpath, htaken⟩
    -- the new text is found at once, the old one was found after some declarations
    obtain ⟨declarations, old, rest, r', hdeclared, hbefore, hafter, hr', hend'⟩ :=
      hspent.run hq hend
    have hfindings : Progress.findings .start (fs ++ gs) =
        (Progress.findings .start fs ++ declarations) ++ .text t old :: rest := by
      rw [Progress.findings_append hp, hbefore, List.append_assoc]
    refine ⟨_, old, rest, ⟨_, by rwa [String.toList_append], hfindings⟩, ?_, ?_⟩
    · rw [← hfindings]
      exact congrArg Draft.manifest (Progress.draft_run hrun)
    · rw [hread hr hr' hend']
      have hdraft' := Progress.draft_run hr'
      rw [hafter, hdraft, Progress.draft_run hp, Draft.addAll_append,
        ← Draft.addAll_declarations_text _ hdeclared, ← Draft.addAll_cons, ← Draft.addAll_append,
        ← Draft.addAll_append, ← List.append_assoc] at hdraft'
      exact congrArg (fun d => Except.ok d.manifest) hdraft'

def noteTag : Tag := bareTag "note".toList (by decide) (by decide)

/-- An element with the text `kept`, which stands beside the name of a member. -/
theorem parse_insert_note :
    let before := "<Package><types><members>Account"
    let element := "<note>kept</note>"
    let after := "</members><name>ApexClass</name></types></Package>"
    (parse (before ++ after) "package.xml").toOption.map (·.types) =
        some [⟨some "ApexClass", ["Account"]⟩] ∧
      (parse (before ++ element ++ after) "package.xml").toOption.map (·.types) =
        some [⟨some "ApexClass", ["kept"]⟩] ∧
      ∃ first old rest,
        Finds (before ++ after) (first ++ .text .member old :: rest) ∧
        parse (before ++ element ++ after) "package.xml" =
          .ok (found (first ++ .text .member "kept" :: rest)) := by
  intro before element after
  let inner : Content := .data (Symbol.plain ['k', 'e', 'p', 't'] (by simp)) .nil
  have hplain : (parse (before ++ after) "package.xml").toOption.map (·.types) =
      some [⟨some "ApexClass", ["Account"]⟩] := by decide +kernel
  have hchanged : (parse (before ++ element ++ after) "package.xml").toOption.map (·.types) =
      some [⟨some "ApexClass", ["kept"]⟩] := by decide +kernel
  obtain ⟨m, hm⟩ : ∃ m, parse (before ++ after) "package.xml" = .ok m := by
    cases h : parse (before ++ after) "package.xml" with
    | ok m => exact ⟨m, rfl⟩
    | error why =>
      rw [h] at hplain
      cases hplain
  have hfront : Xml.pieces (Event.afterMark before.toList) =
      some [.openTag "Package".toList, .openTag "types".toList, .openTag "members".toList,
        .data "Account".toList] := by decide +kernel
  have hback : after.toList =
      '<' :: '/' :: "members><name>ApexClass</name></types></Package>".toList := by decide +kernel
  have hplace : Beside before.toList after.toList := .finish hfront hback
  have helement : Written element.toList noteTag (some (inner, noBlanks)) :=
    ⟨⟨"note>kept</note>".toList, by decide +kernel⟩, by decide +kernel⟩
  obtain ⟨p, ⟨events, hevents, hrun⟩, -, -, hawaited⟩ :=
    parse_insert hm hplace helement (by decide +kernel)
  have hmember : ((Event.ofText? before.toList).bind (Progress.run .start)).map (·.awaited) =
      some (some .member) := by decide +kernel
  rw [hevents, Option.bind_some, hrun, Option.map_some, Option.some.injEq] at hmember
  obtain ⟨first, old, rest, hfinds, -, hinserted⟩ :=
    hawaited .member inner noBlanks hmember rfl
  have hkept : textOf ((firstClosed inner).getD inner) = "kept" := by decide +kernel
  rw [hkept] at hinserted
  exact ⟨hplain, hchanged, first, old, rest, hfinds, hinserted⟩

end OrgPipeline.Manifest
