import OrgPipeline.Schema

/-!
# Manifests

A manifest lists the components of a package: for each type its members. The
same type may come in several entries, and a member several times.
-/

set_option autoImplicit false

namespace OrgPipeline

structure ManifestType where
  name : Option String
  members : List String
  deriving DecidableEq, Repr

structure Manifest where
  xmlVersion : Option String
  encoding : Option String
  xmlns : Option String
  version : Option String
  types : List ManifestType
  deriving DecidableEq, Repr

namespace ManifestType

def schema : Schema ManifestType :=
  mk <$> .optional "name" Fit.text <*> .required "members" (Fit.list Fit.text)

def ofJson (v : Json) : Fit ManifestType := schema.read false "ManifestType" v

def toJson (t : ManifestType) : Json :=
  .object [("name", .orNull (t.name.map .str)), ("members", .strings t.members)]

def component? (t : ManifestType) : Option (String × List String) :=
  match t.name with
  | some name => if t.members.isEmpty then none else some (name, t.members)
  | none => none

end ManifestType

namespace Manifest

def empty : Manifest := ⟨none, none, none, none, []⟩

def fileName : String := "package.xml"

def defaultXmlVersion : String := "1.0"
def defaultEncoding : String := "UTF-8"
def defaultXmlns : String := "http://soap.sforce.com/2006/04/metadata"
def defaultVersion : String := "53.0"

def schema : Schema Manifest :=
  mk <$> .optional "xmlVersion" Fit.text <*> .optional "encoding" Fit.text <*>
    .optional "xmlns" Fit.text <*> .optional "version" Fit.text <*>
    .required "types" (Fit.list ManifestType.ofJson)

def ofJson (v : Json) : Fit Manifest := schema.read false "PackageManifest" v

def toJson (m : Manifest) : Json :=
  .object [("xmlVersion", .orNull (m.xmlVersion.map .str)),
    ("encoding", .orNull (m.encoding.map .str)), ("xmlns", .orNull (m.xmlns.map .str)),
    ("version", .orNull (m.version.map .str)), ("types", .arr (m.types.map ManifestType.toJson))]

def components (m : Manifest) : List (String × List String) :=
  m.types.filterMap ManifestType.component?

end Manifest
end OrgPipeline
