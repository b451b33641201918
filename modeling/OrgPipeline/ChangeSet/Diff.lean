import OrgPipeline.Manifest.Basic
import OrgPipeline.Table

/-!
# What changed between two manifests

Each member of the deploy manifest consumes one equal member of the same type
that the revert manifest still has. Members without a match are added, members
left over are deleted; nothing is counted twice and repeated members count each
time.
-/

set_option autoImplicit false

namespace OrgPipeline

/-- Component types with their members, in order of first appearance. -/
abbrev ComponentMap := Table (List String)

namespace ComponentMap

def membersOf (c : ComponentMap) (type : String) : List String := (c.get? type).getD []

def append (c : ComponentMap) (type : String) (members : List String) : ComponentMap :=
  c.insert type (c.membersOf type ++ members)

def ofManifest (m : Manifest) : ComponentMap :=
  m.components.foldl (fun c (type, members) => c.append type members) .empty

def toJson (c : ComponentMap) : Json :=
  .object (c.toList.map fun (type, members) => (type, Json.strings members))

end ComponentMap

structure Changes where
  added : ComponentMap
  deleted : ComponentMap

namespace Changes

def isEmpty (c : Changes) : Bool := c.added.isEmpty && c.deleted.isEmpty

def toJson (c : Changes) : Json :=
  .object [("added", c.added.toJson), ("deleted", c.deleted.toJson)]

end Changes

namespace ChangeSet

/-- What is left of the revert manifest and what has been added so far. -/
structure Matching where
  left : ComponentMap
  added : ComponentMap

namespace Matching

def place (m : Matching) (type member : String) : Matching :=
  let members := m.left.membersOf type
  if members.contains member then { m with left := m.left.insert type (members.erase member) }
  else { m with added := m.added.append type [member] }

def placeAll (m : Matching) (type : String) (members : List String) : Matching :=
  members.foldl (fun m member => m.place type member) m

def run (m : Matching) (components : List (String × List String)) : Matching :=
  components.foldl (fun m (type, members) => m.placeAll type members) m

end Matching

def nonEmpty (c : ComponentMap) : ComponentMap := ⟨c.entries.filter fun e => !e.2.isEmpty⟩

def changes (revert deploy : Manifest) : Changes :=
  let m := Matching.run ⟨.ofManifest revert, .empty⟩ deploy.components
  ⟨m.added, nonEmpty m.left⟩

def statedOr (value : Option String) (default : String) : String :=
  match value with
  | some v => if v = "" then default else v
  | none => default

/-- A manifest of components to destroy, with the metadata of another one; none
if there is nothing to destroy. -/
def destructive (source : Manifest) (components : ComponentMap) : Option Manifest :=
  match (nonEmpty components).entries with
  | [] => none
  | entries =>
    some {
      xmlVersion := some (statedOr source.xmlVersion Manifest.defaultXmlVersion)
      encoding := some (statedOr source.encoding Manifest.defaultEncoding)
      xmlns := some (statedOr source.xmlns Manifest.defaultXmlns)
      version := some (statedOr source.version Manifest.defaultVersion)
      types := entries.map fun (type, members) => ⟨some type, members⟩ }

/-- The changes, and the manifests that carry them out: what the deployment no
longer contains, and what a revert must take back out. -/
structure Diff where
  changes : Changes
  deployDestructive : Option Manifest
  revertDestructive : Option Manifest

def diff (revert deploy : Manifest) : Diff :=
  let c := changes revert deploy
  ⟨c, destructive deploy c.deleted, destructive revert c.added⟩

end ChangeSet
end OrgPipeline
