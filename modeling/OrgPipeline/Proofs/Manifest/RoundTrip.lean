import OrgPipeline.Manifest.Reader
import OrgPipeline.Manifest.Writer
import OrgPipeline.Proofs.Text.Split
import OrgPipeline.Proofs.Xml.Pieces

/-!
# A manifest read back

The written form of a manifest reads as one list of events, which takes the
reader from its start to the manifest again: its defaults filled in and the
blanks around its texts gone, and nothing else changed.
-/

set_option autoImplicit false

namespace OrgPipeline.Manifest

open Xml

def trimmed (s : String) : String := String.ofList (Text.trimList Text.isMarkupBlank s.toList)

def entryBack (t : ManifestType) : ManifestType := ⟨t.name.map trimmed, t.members.map trimmed⟩

def readBack (m : Manifest) : Manifest where
  xmlVersion := some (m.xmlVersion.getD defaultXmlVersion)
  encoding := some (m.encoding.getD defaultEncoding)
  xmlns := some (m.xmlns.getD defaultXmlns)
  version := m.version.map trimmed
  types := m.types.map entryBack

/-- A value without signs of markup, if there is one. The two values of the
declaration are read as they are written. -/
def Verbatim (value : Option String) : Prop :=
  ∀ s, value = some s → ∀ c ∈ s.toList, isMarkup c = false

def elementEvents (name content : String) : List Xml.Event :=
  .start name [] :: (textEvents content.toList ++ [.finish])

def entryEvents (t : ManifestType) : List Xml.Event :=
  .start "types" [] ::
    (t.members.flatMap (elementEvents "members") ++
      t.name.toList.flatMap (elementEvents "name") ++ [.finish])

def xmlnsText (m : Manifest) : List Char :=
  attributeText "xmlns".toList (escaped m.xmlns defaultXmlns)

def events (m : Manifest) : List Xml.Event :=
  .declaration (m.xmlVersion.getD defaultXmlVersion) (some (m.encoding.getD defaultEncoding)) ::
    .start "Package" m.xmlnsText ::
      (m.types.flatMap entryEvents ++
        m.version.toList.flatMap (elementEvents "version") ++ [.finish])

section

variable (names : List (List Char))

theorem reads_element_line (indent : Nat) {name : String} (hname : IsWord name.toList)
    (content : String) :
    Reads names (element indent name content) names (elementEvents name content) := by
  have hindent : Reads names (List.replicate indent ' ') names [] := by
    apply reads_blanks
    rw [List.all_replicate]
    simp [Text.isMarkupBlank]
  have hend : Reads names ['\n'] names [] := reads_blanks names (by decide)
  have h := reads_append (reads_append hindent (reads_element names hname content.toList)) hend
  have htext : element indent name content =
      List.replicate indent ' ' ++ ('<' :: (name.toList ++ ['>']) ++
        (escape content.toList ++ '<' :: '/' :: (name.toList ++ ['>']))) ++ ['\n'] := by
    simp [element]
  rw [htext]
  simpa [elementEvents] using h

theorem reads_closing_line {name : List Char} (hname : IsWord name) :
    Reads (name :: names) ('<' :: '/' :: (name ++ ['>', '\n'])) names [.finish] := by
  have hend : Reads names ['\n'] names [] := reads_blanks names (by decide)
  have h := reads_append (reads_close names hname []) hend
  simpa [escape, textEvents, Text.trimList_nil] using h

theorem typeLines_eq (t : ManifestType) :
    typeLines t =
      [' ', ' '] ++ '<' :: ("types".toList ++ ['>']) ++ ['\n'] ++
        t.members.flatMap (element 4 "members") ++ t.name.toList.flatMap (element 4 "name") ++
        ([' ', ' '] ++ '<' :: '/' :: ("types".toList ++ ['>', '\n'])) := by
  unfold typeLines
  cases t.name with
  | none => simp
  | some name => simp

theorem reads_typeLines (t : ManifestType) : Reads names (typeLines t) names (entryEvents t) := by
  have hword : IsWord "types".toList := by decide
  let inside := "types".toList :: names
  have hindent (open' : List (List Char)) : Reads open' [' ', ' '] open' [] :=
    reads_blanks open' (by decide)
  have hline : Reads inside ['\n'] inside [] := reads_blanks inside (by decide)
  have hopen := reads_append (reads_append (hindent names) (reads_openWord names hword)) hline
  have hclose := reads_append (hindent inside) (reads_closing_line names hword)
  have hmembers := reads_flatMap inside
    (reads_element_line inside 4 (by decide : IsWord "members".toList)) t.members
  have hname := reads_flatMap inside
    (reads_element_line inside 4 (by decide : IsWord "name".toList)) t.name.toList
  have h := reads_append (reads_append (reads_append hopen hmembers) hname) hclose
  rw [typeLines_eq]
  simpa [entryEvents] using h

theorem xmlText_eq {m : Manifest} :
    m.xmlText =
      "<?xml".toList ++ attributeText "version".toList (escaped m.xmlVersion defaultXmlVersion) ++
        attributeText "encoding".toList (escaped m.encoding defaultEncoding) ++ "?>".toList ++
        ['\n'] ++ '<' :: ("Package".toList ++ m.xmlnsText ++ ['>']) ++ ['\n'] ++
        m.types.flatMap typeLines ++ m.version.toList.flatMap (element 2 "version") ++
        '<' :: '/' :: ("Package".toList ++ ['>', '\n']) := by
  unfold xmlText xmlnsText attributeText
  cases m.version with
  | none => simp
  | some version => simp

theorem reads_xmlText {m : Manifest} (hversion : Verbatim m.xmlVersion)
    (hencoding : Verbatim m.encoding) : Reads names m.xmlText names m.events := by
  have hverbatim {value : Option String} (h : Verbatim value) (default : String)
      (hdefault : ∀ c ∈ default.toList, isMarkup c = false) :
      ∀ c ∈ (value.getD default).toList, isMarkup c = false := by
    cases value with
    | none => exact hdefault
    | some s => exact h s rfl
  have hversion' := hverbatim hversion defaultXmlVersion (not_markup_of_all (by decide))
  have hencoding' := hverbatim hencoding defaultEncoding (not_markup_of_all (by decide))
  have hword : IsWord "Package".toList := by decide
  let inside := "Package".toList :: names
  have hline (open' : List (List Char)) : Reads open' ['\n'] open' [] :=
    reads_blanks open' (by decide)
  have hdeclaration := reads_append (reads_declaration names hversion' hencoding') (hline names)
  have hopen : Reads names ('<' :: ("Package".toList ++ m.xmlnsText ++ ['>']) ++ ['\n']) inside
      [.start "Package" m.xmlnsText] :=
    reads_append (reads_openText names hword (by decide)
      (not_mem_escape (by decide) (by decide) _)) (hline inside)
  have htypes := reads_flatMap inside (reads_typeLines inside) m.types
  have hlast := reads_flatMap inside
    (reads_element_line inside 2 (by decide : IsWord "version".toList)) m.version.toList
  have h := reads_append (reads_append (reads_append (reads_append hdeclaration hopen) htypes)
    hlast) (reads_closing_line names hword)
  rw [xmlText_eq, escaped, escape_of_not_markup hversion', escaped,
    escape_of_not_markup hencoding']
  simpa [events] using h

end

theorem ofText?_xmlText {m : Manifest} (hversion : Verbatim m.xmlVersion)
    (hencoding : Verbatim m.encoding) : Xml.Event.ofText? m.xmlText = some m.events := by
  have hmark : Xml.Event.afterMark m.xmlText = m.xmlText := by
    unfold xmlText
    simp [Xml.Event.afterMark, Xml.Event.byteOrderMark]
  have h := reads_xmlText [] hversion hencoding []
  simp only [List.append_nil, eventsIn, pieces_nil, Option.bind_some, Xml.Event.ofPiecesIn,
    Option.map_some] at h
  rw [Xml.Event.ofText?, hmark]
  exact h

namespace Progress

theorem run_textEvents (p : Progress) (content : String) (rest : List Xml.Event) :
    run { p with text := "" } (textEvents content.toList ++ rest) =
      run { p with text := trimmed content } rest := by
  rw [textEvents, trimmed]
  cases Text.trimList Text.isMarkupBlank content.toList with
  | nil => rfl
  | cons c cs => simp [run, step]

theorem run_elementEvents {p q : Progress} {name : String} (element : TextElement)
    (content : String) (hopen : p.opened name [] =
      some { p with awaited := some element, text := "", path := p.path ++ [name] })
    (htaken : { p with awaited := none, text := trimmed content }.taken element = q) :
    run p (elementEvents name content) = some q := by
  rw [elementEvents, run, step, hopen, Option.bind_some]
  have htext := run_textEvents { p with awaited := some element, path := p.path ++ [name] } content
    [.finish]
  simp only at htext
  rw [htext]
  simp only [run, step, Option.bind_some, closed, List.dropLast_concat]
  rw [htaken]

def inEntry (m : Manifest) (e : ManifestType) : Progress :=
  ⟨m, ["Package", "types"], some e, none, ""⟩

def inRoot (m : Manifest) : Progress := ⟨m, ["Package"], none, none, ""⟩

theorem run_members (m : Manifest) (name : Option String) (read members : List String) :
    run (inEntry m ⟨name, read⟩) (members.flatMap (elementEvents "members")) =
      some (inEntry m ⟨name, read ++ members.map trimmed⟩) := by
  induction members generalizing read with
  | nil => simp [run]
  | cons member members ih =>
    have hfirst : run (inEntry m ⟨name, read⟩) (elementEvents "members" member) =
        some (inEntry m ⟨name, read ++ [trimmed member]⟩) :=
      run_elementEvents .member member rfl rfl
    rw [List.flatMap_cons, run_append, hfirst, Option.bind_some, ih]
    simp

theorem run_entryEvents (m : Manifest) (t : ManifestType) :
    run (inRoot m) (entryEvents t) =
      some (inRoot { m with types := m.types ++ [entryBack t] }) := by
  have hopen : (inRoot m).step (.start "types" []) = some (inEntry m ⟨none, []⟩) := rfl
  have hname : run (inEntry m ⟨none, t.members.map trimmed⟩)
      (t.name.toList.flatMap (elementEvents "name")) = some (inEntry m (entryBack t)) := by
    unfold entryBack
    cases t.name with
    | none => rfl
    | some name =>
      rw [Option.toList_some, List.flatMap_singleton]
      exact run_elementEvents .name name rfl rfl
  rw [entryEvents, run, hopen, Option.bind_some, run_append, run_append, run_members,
    Option.bind_some, List.nil_append, hname, Option.bind_some]
  rfl

theorem run_entries (m : Manifest) (ts : List ManifestType) :
    run (inRoot m) (ts.flatMap entryEvents) =
      some (inRoot { m with types := m.types ++ ts.map entryBack }) := by
  induction ts generalizing m with
  | nil => simp [run]
  | cons t ts ih =>
    rw [List.flatMap_cons, run_append, run_entryEvents, Option.bind_some, ih]
    simp

end Progress

theorem xmlns?_xmlnsText (m : Manifest) :
    Progress.xmlns? m.xmlnsText = some (some (m.xmlns.getD defaultXmlns)) := by
  have hvalue : '"' ∉ escaped m.xmlns defaultXmlns := not_mem_escape (by decide) (by decide) _
  have hfound := attribute?_text (by decide : IsWord "xmlns".toList) hvalue true []
  rw [List.append_nil] at hfound
  rw [Progress.xmlns?, xmlnsText, hfound]
  simp [escaped, unescape_escape]

theorem run_events (m : Manifest) :
    Progress.run .start m.events = some ⟨m.readBack, [], none, none, ""⟩ := by
  -- the manifest as the reader has it after each part of the document
  let declared : Manifest :=
    { Manifest.empty with
      xmlVersion := some (m.xmlVersion.getD defaultXmlVersion)
      encoding := some (m.encoding.getD defaultEncoding) }
  let opened : Manifest := { declared with xmlns := some (m.xmlns.getD defaultXmlns) }
  let filled : Manifest := { opened with types := m.types.map entryBack }
  have hdeclared : Progress.start.step (.declaration (m.xmlVersion.getD defaultXmlVersion)
      (some (m.encoding.getD defaultEncoding))) = some ⟨declared, [], none, none, ""⟩ := rfl
  have hopened : Progress.step ⟨declared, [], none, none, ""⟩ (.start "Package" m.xmlnsText) =
      some (Progress.inRoot opened) := by
    simp only [Progress.step, Progress.opened, xmlns?_xmlnsText, Option.map_some]
    rfl
  have hfilled : Progress.run (Progress.inRoot opened) (m.types.flatMap entryEvents) =
      some (Progress.inRoot filled) := Progress.run_entries opened m.types
  have hversion : Progress.run (Progress.inRoot filled)
      (m.version.toList.flatMap (elementEvents "version")) =
        some (Progress.inRoot m.readBack) := by
    unfold readBack
    cases m.version with
    | none => rfl
    | some version =>
      rw [Option.toList_some, List.flatMap_singleton]
      exact Progress.run_elementEvents .version version rfl rfl
  rw [events, Progress.run, hdeclared, Option.bind_some, Progress.run, hopened, Option.bind_some,
    Progress.run_append, Progress.run_append, hfilled, Option.bind_some, hversion,
    Option.bind_some]
  rfl

/-- Every manifest whose version and encoding of the declaration can stand there
as they are is read back from its written form, whatever its other texts are. -/
theorem parse_toXml (m : Manifest) (label : String) (hversion : Verbatim m.xmlVersion)
    (hencoding : Verbatim m.encoding) : parse m.toXml label = .ok m.readBack := by
  have hread : readText m.xmlText = .ok m.readBack := by
    rw [readText, ofText?_xmlText hversion hencoding]
    simp [ofEvents, run_events]
  rw [parse, toXml, String.toList_ofList, hread]

theorem startsWith_toXml {m : Manifest} (hversion : m.xmlVersion = none)
    (hencoding : m.encoding = none) :
    Text.startsWith "<?xml version=\"1.0\" encoding=\"UTF-8\"?>\n" m.toXml = true := by
  have hlead : "<?xml version=\"1.0\" encoding=\"UTF-8\"?>\n".toList =
      "<?xml version=\"".toList ++ escaped none defaultXmlVersion ++ "\" encoding=\"".toList ++
        escaped none defaultEncoding ++ "\"?>\n".toList := by decide +kernel
  have hwritten : m.toXml.toList = m.xmlText := String.toList_ofList
  unfold xmlText at hwritten
  rw [hversion, hencoding, ← hlead] at hwritten
  apply (Text.startsWith_iff _ _).2
  rw [hwritten]
  simp only [List.append_assoc]
  exact List.prefix_append _ _

def marked : Manifest where
  xmlVersion := none
  encoding := some "utf-8"
  xmlns := some "urn:\"a\" <b> & \x27c\x27"
  version := some " 53.0\n"
  types :=
    [⟨some "Apex&amp;Class", ["<members>A</members>", "", "\tB B ", "&#66;", "B", "B"]⟩,
      ⟨none, []⟩, ⟨some "\r\n", ["]]>", "-->"]⟩]

theorem parse_toXml_marked :
    Verbatim marked.xmlVersion ∧ Verbatim marked.encoding ∧
      parse marked.toXml "package.xml" = .ok
        { xmlVersion := some "1.0"
          encoding := some "utf-8"
          xmlns := some "urn:\"a\" <b> & \x27c\x27"
          version := some "53.0"
          types :=
            [⟨some "Apex&amp;Class", ["<members>A</members>", "", "B B", "&#66;", "B", "B"]⟩,
              ⟨none, []⟩, ⟨some "", ["]]>", "-->"]⟩] } := by
  have hversion : Verbatim marked.xmlVersion := by
    intro s h
    contradiction
  have hencoding : Verbatim marked.encoding := by
    intro s h
    cases h
    exact not_markup_of_all (by decide)
  refine ⟨hversion, hencoding, ?_⟩
  rw [parse_toXml marked "package.xml" hversion hencoding]
  exact congrArg Except.ok (by decide)

end OrgPipeline.Manifest
