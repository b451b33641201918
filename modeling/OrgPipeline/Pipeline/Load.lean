import OrgPipeline.Pipeline.Config
import OrgPipeline.World.Basic
import OrgPipeline.Text.Lowercase

/-!
# Loading a pipeline

The format of a pipeline file is told by its extension. Loading reads the file,
checks its steps and makes sure that every identifier is unique.
-/

set_option autoImplicit false

namespace OrgPipeline

def Format.ofExtension (extension : String) : Option Format :=
  let e := Text.lowercase extension
  if e = "yml" ∨ e = "yaml" then some .yaml
  else if e = "json" then some .json
  else none

def Format.ofPath (path : String) : Option Format :=
  (Path.extension? path).bind Format.ofExtension

namespace LoadedPipeline

def ofText (path text : String) (format : Format) (label : String) (allowUnknown : Bool) :
    Except Error LoadedPipeline := do
  let config ← PipelineConfig.parse text format label allowUnknown
  let index ← StepIndex.build config.steps
  return ⟨path, config, index⟩

def load (path : String) (allowUnknown : Bool) : Action LoadedPipeline := do
  if ← Action.isFile path then
    match Format.ofPath path with
    | some format =>
      let text ← Action.readText path "read pipeline config"
      Action.ofExcept (ofText path text format path allowUnknown)
    | none => throw (Cause.configFileType path "YAML or JSON" : Error)
  else throw (Cause.configNotFound path : Error)

end LoadedPipeline
end OrgPipeline
