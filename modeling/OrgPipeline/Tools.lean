import OrgPipeline.Platform.Sfdx
import OrgPipeline.VersionControl

/-!
# Tools

What steps work with: a platform and a repository, each a way to carry out
commands.
-/

set_option autoImplicit false

namespace OrgPipeline

structure Tools where
  platform : Platform.Command → Action Json
  repository : VersionControl.Command → Action Unit

namespace Tools

def ofPrograms (bin directory : String) : Tools where
  platform := Platform.Sfdx.perform ⟨bin, directory⟩
  repository := VersionControl.perform directory

end Tools
end OrgPipeline
