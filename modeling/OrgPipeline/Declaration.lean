import OrgPipeline.Param

/-!
# Declared inputs and variables
-/

set_option autoImplicit false

namespace OrgPipeline

/-- An input of a pipeline; its default counts when nothing is supplied. -/
structure InputDeclaration where
  id : String
  default : Option Param
  description : Option String

structure VariableDeclaration where
  id : String
  value : Param
  description : Option String

def InputDeclaration.schema : Schema InputDeclaration :=
  InputDeclaration.mk <$> .required "id" Fit.text <*> .trailing "default" Param.ofJson <*>
    .trailing "description" Fit.text

def InputDeclaration.ofJson (v : Json) : Fit InputDeclaration :=
  InputDeclaration.schema.read false "InputDeclaration" v

def VariableDeclaration.schema : Schema VariableDeclaration :=
  VariableDeclaration.mk <$> .required "id" Fit.text <*> .required "value" Param.ofJson <*>
    .trailing "description" Fit.text

def VariableDeclaration.ofJson (v : Json) : Fit VariableDeclaration :=
  VariableDeclaration.schema.read false "VariableDeclaration" v

end OrgPipeline
