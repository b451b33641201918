import OrgPipeline.Xml.Markup
import OrgPipeline.Xml.Entity
import OrgPipeline.Xml.Attribute

/-!
# Events of a markup text

The pieces of a text become events: elements that open and close, in pairs of
one name, and the character data between them. A text may end with elements
still open; that is for the reader of the events to judge.
-/

set_option autoImplicit false

namespace OrgPipeline.Xml

/-- Names are local: what precedes their first colon is left out. Attributes
are kept as written. -/
inductive Event where
  | declaration (version : String) (encoding : Option String)
  | start (name : String) (attributes : List Char)
  | empty (name : String) (attributes : List Char)
  | finish
  | text (content : String)
  deriving DecidableEq, Repr

def tagName (content : List Char) : List Char :=
  content.takeWhile fun c => !Text.isMarkupBlank c

def tagAttributes (content : List Char) : List Char :=
  content.dropWhile fun c => !Text.isMarkupBlank c

/-- What follows the first colon of a name, or the whole name. -/
def localPart (name : List Char) : List Char :=
  match name.dropWhile (· ≠ ':') with
  | [] => name
  | _ :: rest => rest

def localName (content : List Char) : String := String.ofList (localPart (tagName content))

/-- The name in a closing tag; blanks after it do not count. -/
def closedName (content : List Char) : List Char :=
  match Text.dropEndWhile Text.isMarkupBlank content with
  | [] => content
  | name => name

/-- The declaration of a document names its version first. -/
def declaration? (content : List Char) : Option Event :=
  match nextAttribute content with
  | .found key version _ =>
    if key = "version".toList then
      (attribute? false "encoding" content).map fun e =>
        .declaration (String.ofList version) (e.map String.ofList)
    else none
  | _ => none

namespace Event

/-- The events of pieces inside open elements, whose full names are given. -/
def ofPiecesIn : List (List Char) → List Piece → Option (List Event)
  | _, [] => some []
  | names, .data raw :: rest => do
    let content ← unescape raw
    let events ← ofPiecesIn names rest
    some (.text (String.ofList content) :: events)
  | names, .characters content :: rest =>
    (ofPiecesIn names rest).map (.text (String.ofList content) :: ·)
  | names, .openTag content :: rest =>
    (ofPiecesIn (tagName content :: names) rest).map
      (.start (localName content) (tagAttributes content) :: ·)
  | names, .emptyTag content :: rest =>
    (ofPiecesIn names rest).map (.empty (localName content) (tagAttributes content) :: ·)
  | [], .closeTag _ :: _ => none
  | name :: names, .closeTag content :: rest =>
    if closedName content = name then
      (ofPiecesIn names rest).map (.finish :: ·)
    else none
  | names, .declaration content :: rest => do
    let d ← declaration? content
    let events ← ofPiecesIn names rest
    some (d :: events)
  | names, .aside :: rest => ofPiecesIn names rest

def ofPieces? (ps : List Piece) : Option (List Event) := ofPiecesIn [] ps

def byteOrderMark : Char := Char.ofNat 0xFEFF

def afterMark (cs : List Char) : List Char :=
  match cs with
  | c :: rest => if c = byteOrderMark then rest else c :: rest
  | [] => []

/-- The events of a text; one mark of byte order before it does not count. -/
def ofText? (cs : List Char) : Option (List Event) := (pieces (afterMark cs)).bind ofPieces?

end Event
end OrgPipeline.Xml
