import OrgPipeline.Schema
import OrgPipeline.Text.Lowercase

/-!
# When components are destroyed

Destructive changes apply before or after the deployment; the manifest that
lists them is named accordingly.
-/

set_option autoImplicit false

namespace OrgPipeline

inductive DestructiveMode where
  | pre
  | post
  deriving DecidableEq, Repr

namespace DestructiveMode

def text : DestructiveMode → String
  | pre => "pre"
  | post => "post"

def fileName : DestructiveMode → String
  | pre => "destructiveChangesPre.xml"
  | post => "destructiveChangesPost.xml"

def declared : List (String × DestructiveMode) := [("pre", pre), ("post", post)]

def ofJson : Json → Fit DestructiveMode := Fit.variant declared

def toJson (m : DestructiveMode) : Json := .str m.text

/-- As an argument: the name in any case. A refusal shows it in lower case. -/
def read (s : String) : Except String DestructiveMode :=
  let name := Text.lowercase s
  match declared.lookup name with
  | some m => .ok m
  | none => .error
      ("unknown destructive change set mode '" ++ name ++ "', expected pre or post")

end DestructiveMode
end OrgPipeline
