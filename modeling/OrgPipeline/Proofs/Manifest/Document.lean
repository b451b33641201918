import OrgPipeline.Proofs.Manifest.Acceptance
import OrgPipeline.Proofs.Xml.Document

/-!
# A manifest read as a tree

The reader follows the events of a document with the path of open elements, one
entry under way and one buffer of text. On a document whose root is a package
this comes to a reading of the tree: the entries, their members and names and
the version stand at known places, and nothing that stands anywhere else is seen.
-/

set_option autoImplicit false

namespace OrgPipeline.Manifest

open Xml

def textOf (c : Content) : String := String.ofList c.text

def lastText (name : String) (c : Content) : Option String :=
  ((c.named name).getLast?).map textOf

/-- An entry as it is with what follows read: members are added, and a further name
takes the place of the one before. -/
def extended (e : ManifestType) (c : Content) : ManifestType :=
  ⟨lastText "name" c <|> e.name, e.members ++ (c.named "members").map textOf⟩

def entryOf (c : Content) : ManifestType := extended ⟨none, []⟩ c

def filled (m : Manifest) (c : Content) : Manifest :=
  { m with
    version := lastText "version" c <|> m.version
    types := m.types ++ (c.named "types").map entryOf }

def ofDocument (d : Document) : Manifest where
  xmlVersion := d.declaration.map fun x => String.ofList x.version.raw
  encoding := d.declaration.bind Declaration.encoding?
  xmlns := d.root.attribute? "xmlns"
  version := lastText "version" d.content
  types := (d.content.named "types").map entryOf

structure FlatEntry (c : Content) : Prop where
  members : ∀ m ∈ c.named "members", m.Flat
  names : ∀ n ∈ c.named "name", n.Flat

structure FlatPackage (c : Content) : Prop where
  versions : ∀ v ∈ c.named "version", v.Flat
  entries : ∀ t ∈ c.named "types", FlatEntry t

instance (c : Content) : Decidable (FlatEntry c) :=
  decidable_of_iff ((∀ m ∈ c.named "members", m.Flat) ∧ ∀ n ∈ c.named "name", n.Flat)
    ⟨fun h => ⟨h.1, h.2⟩, fun h => ⟨h.members, h.names⟩⟩

structure Packaged (d : Document) : Prop where
  root : d.root.localName = packageName
  flat : FlatPackage d.content

theorem lastText_element (name : String) (tag : Tag) (inner : Content) (gap : Blanks)
    (rest : Content) :
    lastText name (.element tag inner gap rest) =
      if tag.localName = name then (lastText name rest <|> some (textOf inner))
      else lastText name rest := by
  unfold lastText
  rw [Content.named]
  split
  · rw [List.getLast?_cons]
    cases (rest.named name).getLast? <;> rfl
  · rfl

theorem extended_members {e : ManifestType} {tag : Tag} (hname : tag.localName = "members")
    (inner : Content) (gap : Blanks) (rest : Content) :
    extended e (.element tag inner gap rest) =
      extended { e with members := e.members ++ [textOf inner] } rest := by
  simp [extended, lastText_element, Content.named, hname]

theorem extended_name {e : ManifestType} {tag : Tag} (hname : tag.localName = "name")
    (inner : Content) (gap : Blanks) (rest : Content) :
    extended e (.element tag inner gap rest) =
      extended { e with name := some (textOf inner) } rest := by
  simp [extended, lastText_element, Content.named, hname]

theorem extended_other {e : ManifestType} {tag : Tag} (hmembers : tag.localName ≠ "members")
    (hname : tag.localName ≠ "name") (inner : Content) (gap : Blanks) (rest : Content) :
    extended e (.element tag inner gap rest) = extended e rest := by
  simp [extended, lastText_element, Content.named, hmembers, hname]

theorem filled_version {m : Manifest} {tag : Tag} (hname : tag.localName = "version")
    (inner : Content) (gap : Blanks) (rest : Content) :
    filled m (.element tag inner gap rest) =
      filled { m with version := some (textOf inner) } rest := by
  simp [filled, lastText_element, Content.named, hname]

theorem filled_types {m : Manifest} {tag : Tag} (hname : tag.localName = "types")
    (inner : Content) (gap : Blanks) (rest : Content) :
    filled m (.element tag inner gap rest) =
      filled { m with types := m.types ++ [entryOf inner] } rest := by
  simp [filled, lastText_element, Content.named, hname]

theorem filled_other {m : Manifest} {tag : Tag} (hversion : tag.localName ≠ "version")
    (htypes : tag.localName ≠ "types") (inner : Content) (gap : Blanks) (rest : Content) :
    filled m (.element tag inner gap rest) = filled m rest := by
  simp [filled, lastText_element, Content.named, hversion, htypes]

theorem FlatEntry.of_element {tag : Tag} {inner rest : Content} {gap : Blanks}
    (h : FlatEntry (.element tag inner gap rest)) :
    (tag.localName = "members" → inner.Flat) ∧ (tag.localName = "name" → inner.Flat) ∧
      FlatEntry rest := by
  have hm := (Content.forall_named_element ..).1 h.members
  have hn := (Content.forall_named_element ..).1 h.names
  exact ⟨hm.1, hn.1, hm.2, hn.2⟩

theorem FlatPackage.of_element {tag : Tag} {inner rest : Content} {gap : Blanks}
    (h : FlatPackage (.element tag inner gap rest)) :
    (tag.localName = "version" → inner.Flat) ∧ (tag.localName = "types" → FlatEntry inner) ∧
      FlatPackage rest := by
  have hv := (Content.forall_named_element ..).1 h.versions
  have ht := (Content.forall_named_element ..).1 h.entries
  exact ⟨hv.1, ht.1, hv.2, ht.2⟩

namespace Progress

variable {p : Progress}

theorem run_dataEvents (cs : List Char) (rest : List Xml.Event) :
    run p (dataEvents cs ++ rest) = run { p with text := p.text ++ String.ofList cs } rest := by
  unfold dataEvents
  split
  · next h => simp [h]
  · rfl

theorem run_empty (hpath : p.path ≠ []) (name : String) (attributes : List Char)
    (rest : List Xml.Event) : run p (.empty name attributes :: rest) = run p rest := by
  have hstep : p.step (.empty name attributes) = some p := if_neg fun h => hpath h.1
  rw [run, hstep, Option.bind_some]

theorem run_element {q r : Progress} {tag : Tag} {inner : Content}
    (hopen : p.opened tag.localName tag.text = some q) (hinner : run q inner.events = some r)
    (rest : List Xml.Event) :
    run p (.start tag.localName tag.text :: (inner.events ++ .finish :: rest)) =
      run r.closed rest := by
  rw [run, step, hopen, Option.bind_some, run_append, hinner, Option.bind_some, run, step,
    Option.bind_some]

def Passed (path : List String) : Prop := 2 ≤ path.length ∧ path ≠ ["Package", "types"]

theorem Passed.append {path : List String} (h : Passed path) (name : String) :
    Passed (path ++ [name]) := by
  have hlength := h.1
  refine ⟨by simp; omega, fun e => ?_⟩
  have := congrArg List.length e
  simp at this
  omega

theorem Passed.ne_nil {path : List String} (h : Passed path) : path ≠ [] := by
  rintro rfl
  exact absurd h.1 (by simp)

theorem Passed.length_ne_one {path : List String} (h : Passed path) : path.length ≠ 1 := by
  have := h.1
  omega

theorem opened_passed (h : Passed p.path) (name : String) (attributes : List Char) :
    p.opened name attributes = some { p with text := "", path := p.path ++ [name] } := by
  unfold opened
  split
  · next hp => exact absurd h.1 (by simp [hp])
  · next hp => exact absurd h.1 (by simp [hp])
  · next hp => exact absurd h.1 (by simp [hp])
  · next hp => exact absurd hp h.2
  · next hp => exact absurd hp h.2
  · rfl

/-- At the end of an element that nothing was awaited in, the reader is where the element
began. -/
theorem closed_passed {path : List String} {name : String} (hawaited : p.awaited = none)
    (hname : name = "types" → path.length ≠ 1) (text : String) :
    closed { p with path := path ++ [name], text := text } =
      { p with path := path, text := text } := by
  have htypes : ¬(some name = some "types" ∧ path.length = 1) := by
    rintro ⟨h₁, h₂⟩
    exact hname (Option.some.inj h₁) h₂
  simp only [closed, hawaited, List.getLast?_concat, List.dropLast_concat, if_neg htypes]

theorem run_passed (c : Content) (hpath : Passed p.path) (hawaited : p.awaited = none) :
    ∃ text, run p c.events = some { p with text := text } := by
  induction c generalizing p with
  | nil => exact ⟨p.text, rfl⟩
  | data run rest ih =>
    rw [Content.events, run_dataEvents]
    exact ih hpath hawaited
  | characters cs rest ih => exact ih (p := { p with text := _ }) hpath hawaited
  | aside rest ih => exact ih hpath hawaited
  | empty tag rest ih =>
    rw [Content.events, run_empty hpath.ne_nil]
    exact ih hpath hawaited
  | element tag inner gap rest ihinner ihrest =>
    obtain ⟨text, hinner⟩ := ihinner (p := { p with text := "", path := p.path ++ [tag.localName] })
      (hpath.append _) hawaited
    rw [Content.events, run_element (opened_passed hpath _ _) hinner]
    rw [closed_passed hawaited fun _ => hpath.length_ne_one]
    exact ihrest hpath hawaited

theorem run_passed_element {tag : Tag} (inner : Content) {path : List String}
    (hpath : p.path = path) (hpassed : Passed (path ++ [tag.localName]))
    (hopen : p.opened tag.localName tag.text =
      some { p with text := "", path := p.path ++ [tag.localName] })
    (hname : tag.localName = "types" → path.length ≠ 1) (hawaited : p.awaited = none)
    (rest : List Xml.Event) :
    ∃ text, run p (.start tag.localName tag.text :: (inner.events ++ .finish :: rest)) =
      run { p with text := text } rest := by
  subst hpath
  obtain ⟨text, hinner⟩ :=
    run_passed inner (p := { p with text := "", path := p.path ++ [tag.localName] })
      hpassed hawaited
  refine ⟨text, ?_⟩
  rw [run_element hopen hinner, closed_passed hawaited hname]

theorem run_flat {c : Content} (hflat : c.Flat) (hpath : p.path ≠ []) :
    run p c.events = some { p with text := p.text ++ textOf c } := by
  induction c generalizing p with
  | nil => simp [Content.events, run, textOf, Content.text]
  | data run rest ih =>
    have h := ih (p := { p with text := p.text ++ String.ofList (Symbol.text run) }) hflat hpath
    rw [Content.events, run_dataEvents, h]
    simp [textOf, Content.text, String.append_assoc]
  | characters cs rest ih =>
    have h := ih (p := { p with text := p.text ++ String.ofList cs }) hflat hpath
    simpa [Content.events, run, step, textOf, Content.text, String.append_assoc] using h
  | aside rest ih => exact ih hflat hpath
  | empty tag rest ih =>
    rw [Content.events, run_empty hpath]
    exact ih hflat hpath
  | element tag inner gap rest => exact hflat.elim

theorem run_text_element {tag : Tag} {inner : Content} (element : TextElement)
    (hflat : inner.Flat) (hawaited : p.awaited = none)
    (hopen : p.opened tag.localName tag.text =
      some { p with awaited := some element, text := "", path := p.path ++ [tag.localName] })
    (rest : List Xml.Event) :
    run p (.start tag.localName tag.text :: (inner.events ++ .finish :: rest)) =
      run ({ p with text := textOf inner }.taken element) rest := by
  have hinner := run_flat (p := { p with
    awaited := some element, text := "", path := p.path ++ [tag.localName] }) hflat (by simp)
  rw [run_element hopen hinner]
  simp [closed, ← hawaited]

theorem run_entry {c : Content} {e : ManifestType} (hflat : FlatEntry c)
    (hpath : p.path = ["Package", "types"]) (hentry : p.entry = some e)
    (hawaited : p.awaited = none) :
    ∃ text, run p c.events = some { p with entry := some (extended e c), text := text } := by
  have hne : p.path ≠ [] := by simp [hpath]
  induction c generalizing p e with
  | nil =>
    exact ⟨p.text, by simp [Content.events, run, extended, lastText, Content.named, ← hentry]⟩
  | data run rest ih =>
    rw [Content.events, run_dataEvents]
    exact ih ⟨hflat.1, hflat.2⟩ hpath hentry hawaited hne
  | characters cs rest ih =>
    exact ih (p := { p with text := _ }) ⟨hflat.1, hflat.2⟩ hpath hentry hawaited hne
  | aside rest ih => exact ih ⟨hflat.1, hflat.2⟩ hpath hentry hawaited hne
  | empty tag rest ih =>
    rw [Content.events, run_empty hne]
    exact ih ⟨hflat.1, hflat.2⟩ hpath hentry hawaited hne
  | element tag inner gap rest _ ih =>
    obtain ⟨hmember, hnamed, hrest⟩ := hflat.of_element
    rw [Content.events]
    by_cases hm : tag.localName = "members"
    · have hopen : p.opened tag.localName tag.text = some { p with
          awaited := some .member, text := "", path := p.path ++ [tag.localName] } := by
        simp [opened, hpath, hm]
      rw [run_text_element .member (hmember hm) hawaited hopen, extended_members hm]
      simp only [taken, hentry]
      exact ih (p := { p with entry := some _, text := "" }) hrest hpath rfl hawaited hne
    by_cases hn : tag.localName = "name"
    · have hopen : p.opened tag.localName tag.text = some { p with
          awaited := some .name, text := "", path := p.path ++ [tag.localName] } := by
        simp [opened, hpath, hn]
      rw [run_text_element .name (hnamed hn) hawaited hopen, extended_name hn]
      simp only [taken, hentry]
      exact ih (p := { p with entry := some _, text := "" }) hrest hpath rfl hawaited hne
    · have hopen : p.opened tag.localName tag.text =
          some { p with text := "", path := p.path ++ [tag.localName] } := by
        unfold opened
        rw [hpath]
        split <;> simp_all
      obtain ⟨text, hrun⟩ := run_passed_element inner hpath ⟨by simp, by simp⟩ hopen (by simp)
        hawaited rest.events
      rw [hrun, extended_other hm hn]
      exact ih (p := { p with text := text }) hrest hpath hentry hawaited hne

theorem run_types {tag : Tag} {inner : Content} (hname : tag.localName = "types")
    (hflat : FlatEntry inner) (hpath : p.path = ["Package"]) (hawaited : p.awaited = none)
    (rest : List Xml.Event) :
    ∃ text, run p (.start tag.localName tag.text :: (inner.events ++ .finish :: rest)) =
      run { p with
        manifest := { p.manifest with types := p.manifest.types ++ [entryOf inner] }
        entry := none, text := text } rest := by
  have hopen : p.opened tag.localName tag.text = some { p with
      entry := some ⟨none, []⟩, text := "", path := ["Package", "types"] } := by
    simp [opened, hpath, hname]
  obtain ⟨text, hinner⟩ := run_entry (p := { p with
    entry := some ⟨none, []⟩, text := "", path := ["Package", "types"] }) hflat rfl rfl hawaited
  refine ⟨text, ?_⟩
  rw [run_element hopen hinner]
  simp [closed, hawaited, hpath, entryOf]

theorem run_package {c : Content} {m : Manifest} (hflat : FlatPackage c)
    (hpath : p.path = ["Package"]) (hmanifest : p.manifest = m) (hawaited : p.awaited = none) :
    ∃ entry text, run p c.events =
      some { p with manifest := filled m c, entry := entry, text := text } := by
  have hne : p.path ≠ [] := by simp [hpath]
  induction c generalizing p m with
  | nil =>
    refine ⟨p.entry, p.text, ?_⟩
    simp [Content.events, run, filled, lastText, Content.named, ← hmanifest]
  | data run rest ih =>
    rw [Content.events, run_dataEvents]
    exact ih ⟨hflat.1, hflat.2⟩ hpath hmanifest hawaited hne
  | characters cs rest ih =>
    exact ih (p := { p with text := _ }) ⟨hflat.1, hflat.2⟩ hpath hmanifest hawaited hne
  | aside rest ih => exact ih ⟨hflat.1, hflat.2⟩ hpath hmanifest hawaited hne
  | empty tag rest ih =>
    rw [Content.events, run_empty hne]
    exact ih ⟨hflat.1, hflat.2⟩ hpath hmanifest hawaited hne
  | element tag inner gap rest _ ih =>
    obtain ⟨hversion, hentry, hrest⟩ := hflat.of_element
    rw [Content.events]
    by_cases hv : tag.localName = "version"
    · have hopen : p.opened tag.localName tag.text = some { p with
          awaited := some .version, text := "", path := p.path ++ [tag.localName] } := by
        simp [opened, hpath, hv]
      rw [run_text_element .version (hversion hv) hawaited hopen, filled_version hv]
      exact ih (p := { p with manifest := _, text := "" }) hrest hpath (by rw [hmanifest]) hawaited
        hne
    by_cases ht : tag.localName = "types"
    · obtain ⟨text, hrun⟩ := run_types ht (hentry ht) hpath hawaited rest.events
      rw [hrun, filled_types ht]
      exact ih (p := { p with manifest := _, entry := none, text := text }) hrest hpath
        (by rw [hmanifest]) hawaited hne
    · have hopen : p.opened tag.localName tag.text =
          some { p with text := "", path := p.path ++ [tag.localName] } := by
        unfold opened
        rw [hpath]
        split <;> simp_all
      obtain ⟨text, hrun⟩ := run_passed_element inner hpath ⟨by simp, by simpa using ht⟩ hopen
        (fun h => absurd h ht) hawaited rest.events
      rw [hrun, filled_other hv ht]
      exact ih (p := { p with text := text }) hrest hpath hmanifest hawaited hne

theorem xmlns?_tag (t : Tag) : xmlns? t.text = some (t.attribute? "xmlns") := by
  rw [xmlns?, t.attribute?_text]
  unfold Attribute.raw? Tag.attribute?
  cases t.attributes.find? (·.key = "xmlns".toList) with
  | none => rfl
  | some a => simp [Attribute.unescape_raw, Attribute.text]

def declared (d : Document) : Manifest :=
  { Manifest.empty with
    xmlVersion := d.declaration.map fun x => String.ofList x.version.raw
    encoding := d.declaration.bind Declaration.encoding? }

theorem run_declaration (d : Document) (rest : List Xml.Event) :
    run .start (d.declaration.toList.map Declaration.event ++ rest) =
      run { Progress.start with manifest := declared d } rest := by
  unfold declared
  cases d.declaration with
  | none => rfl
  | some x =>
    cases henc : x.encoding? <;> simp [run, step, Declaration.event, henc, start, Manifest.empty]

theorem run_root {d : Document} (h : Packaged d) (hpath : p.path = [])
    (hawaited : p.awaited = none) (rest : Content) :
    ∃ q, run p (d.rootElement rest).events = run q rest.events ∧ q.path = [] ∧
      q.manifest =
        filled { p.manifest with xmlns := d.root.attribute? "xmlns" } d.content := by
  obtain ⟨hroot, hflat⟩ := h
  unfold Document.rootElement
  unfold Document.content at hflat ⊢
  cases hinside : d.inside with
  | none =>
    have hstep : p.step (.empty d.root.localName d.root.text) =
        some { p with manifest := { p.manifest with xmlns := d.root.attribute? "xmlns" } } := by
      simp [step, hpath, hroot, packageName, xmlns?_tag]
    refine ⟨{ p with manifest := { p.manifest with xmlns := d.root.attribute? "xmlns" } },
      ?_, hpath, ?_⟩
    · rw [Content.events, run, hstep, Option.bind_some]
    · simp [filled, lastText, Content.named]
  | some x =>
    obtain ⟨inner, gap⟩ := x
    rw [hinside] at hflat
    have hopen : p.opened d.root.localName d.root.text = some { p with
        manifest := { p.manifest with xmlns := d.root.attribute? "xmlns" }
        path := ["Package"], text := "" } := by
      rw [hroot, opened_package hpath, xmlns?_tag]
      rfl
    obtain ⟨entry, text, hinner⟩ := run_package (p := { p with
      manifest := { p.manifest with xmlns := d.root.attribute? "xmlns" }
      path := ["Package"], text := "" }) hflat rfl rfl hawaited
    refine ⟨_, by rw [Content.events, run_element hopen hinner], ?_, ?_⟩
    · simp [closed_path]
    · simp [closed, hawaited]

theorem run_document {d : Document} (h : Packaged d) :
    ∃ q, run .start d.events = some q ∧ q.path = [] ∧ q.manifest = ofDocument d := by
  obtain ⟨q, hrun, hpath, hmanifest⟩ :=
    run_root (p := { Progress.start with manifest := declared d }) h rfl rfl
      (.asides d.after .nil)
  refine ⟨q, ?_, hpath, ?_⟩
  · unfold Document.events
    rw [run_declaration, Document.body, Content.events_asides, hrun, Content.events_asides]
    rfl
  · rw [hmanifest]
    simp [filled, declared, ofDocument, Manifest.empty]

end Progress

/-- A text that is cut into the pieces of a document with a package for its root is
read as the manifest that the tree of the document says: one entry for each element
at the place of an entry, its members and its name, and the version. Whatever stands
elsewhere in the tree, under whatever name and however deep, makes no difference. -/
theorem parse_document (d : Document) (h : Packaged d) (text label : String)
    (htext : Xml.pieces (Event.afterMark text.toList) = some d.pieces) :
    parse text label = .ok (ofDocument d) := by
  obtain ⟨q, hrun, hpath, hmanifest⟩ := Progress.run_document h
  have hevents : Event.ofText? text.toList = some d.events := by
    rw [Event.ofText?, htext, Option.bind_some, d.ofPieces?_pieces]
  rw [parse_ok_iff_readText, readText, hevents]
  simp [ofEvents, hrun, hpath, hmanifest]

def noBlanks : Blanks := ⟨[], rfl⟩

def oneBlank : Blanks := ⟨[' '], rfl⟩

def bareTag (name : List Char) (hne : name ≠ []) (h : name.all (fun c => !Text.isMarkupBlank c)) :
    Tag :=
  ⟨name, [], noBlanks, hne, h, List.nodup_nil⟩

def lessSign : Symbol := ⟨'&' :: ("lt".toList ++ [';']), '<', .named (by decide)⟩

theorem numeral_letter : Numeral 16 (['4'] ++ ['2']) (4 * 16 + 2) := .snoc (.one rfl) rfl

def letterSign : Symbol :=
  ⟨'&' :: ('#' :: 'x' :: (['4'] ++ ['2']) ++ [';']), 'B', .hexadecimal numeral_letter (by decide)⟩

def layeredRoot : Tag where
  name := "md:Package".toList
  attributes :=
    [{ gap := oneBlank, key := "xmlns".toList, before := noBlanks, after := oneBlank
       quote := '\x27'
       value := Symbol.plain ['a'] (by simp) ++ [lessSign]
       gap_ne := by decide, isKey := by decide, isQuote := by decide, not_quoted := by decide }]
  tail := noBlanks
  name_ne := by decide
  no_blank := by decide
  distinct := by decide

def typesTag : Tag := bareTag "types".toList (by decide) (by decide)
def membersTag : Tag := bareTag "members".toList (by decide) (by decide)
def nameTag : Tag := bareTag "name".toList (by decide) (by decide)
def otherTag : Tag := bareTag ['o'] (by decide) (by decide)

def layered : Document where
  declaration := none
  before := 1
  root := layeredRoot
  inside := some (
    .data (Symbol.plain ['n'] (by simp))
      (.element otherTag
        (.element typesTag (.element membersTag (.data (Symbol.plain ['X'] (by simp)) .nil)
          noBlanks .nil) noBlanks .nil)
        noBlanks
        (.element typesTag
          (.element nameTag (.data (Symbol.plain ['N'] (by simp)) .nil) noBlanks
            (.element membersTag
              (.data (Symbol.plain [' ', 'A'] (by simp) ++ [letterSign])
                (.characters ['<'] .nil))
              oneBlank .nil))
          noBlanks .nil)), noBlanks)
  after := 0

def layeredText : String :=
  "<!----><md:Package xmlns= \x27a&lt;\x27>n<o><types><members>X</members></types></o>" ++
    "<types><name>N</name><members> A&#x42;<![CDATA[<]]></members ></types></md:Package>"

theorem parse_document_layered :
    Packaged layered ∧ Xml.pieces (Event.afterMark layeredText.toList) = some layered.pieces ∧
      parse layeredText "package.xml" = .ok
        { xmlVersion := none
          encoding := none
          xmlns := some "a<"
          version := none
          types := [⟨some "N", ["AB<"]⟩] } := by
  have hpackaged : Packaged layered :=
    ⟨by decide +kernel, ⟨by decide +kernel, by decide +kernel⟩⟩
  have hpieces : Xml.pieces (Event.afterMark layeredText.toList) = some layered.pieces := by
    decide +kernel
  refine ⟨hpackaged, hpieces, ?_⟩
  rw [parse_document layered hpackaged layeredText "package.xml" hpieces]
  exact congrArg Except.ok (by decide +kernel)

end OrgPipeline.Manifest
