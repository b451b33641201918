import OrgPipeline.Manifest.Basic
import OrgPipeline.Xml.Entity

/-!
# Writing a manifest

One element a line, two blanks for each level; what a manifest does not say is
filled in with the defaults.
-/

set_option autoImplicit false

namespace OrgPipeline.Manifest

def element (indent : Nat) (name : String) (content : String) : List Char :=
  List.replicate indent ' ' ++ '<' :: name.toList ++ '>' :: Xml.escape content.toList ++
    "</".toList ++ name.toList ++ ">\n".toList

def typeLines (t : ManifestType) : List Char :=
  "  <types>\n".toList ++ t.members.flatMap (element 4 "members") ++
    (match t.name with
      | some name => element 4 "name" name
      | none => []) ++
    "  </types>\n".toList

def escaped (value : Option String) (default : String) : List Char :=
  Xml.escape (value.getD default).toList

def xmlText (m : Manifest) : List Char :=
  "<?xml version=\"".toList ++ escaped m.xmlVersion defaultXmlVersion ++
    "\" encoding=\"".toList ++ escaped m.encoding defaultEncoding ++ "\"?>\n".toList ++
    "<Package xmlns=\"".toList ++ escaped m.xmlns defaultXmlns ++ "\">\n".toList ++
    m.types.flatMap typeLines ++
    (match m.version with
      | some version => element 2 "version" version
      | none => []) ++
    "</Package>\n".toList

def toXml (m : Manifest) : String := String.ofList m.xmlText

end OrgPipeline.Manifest
