/-!
# Environment

The variables of the process, each with its text.
-/

set_option autoImplicit false

namespace OrgPipeline

abbrev Environment := String → Option String

namespace Environment

def ofList (vars : List (String × String)) : Environment := fun name =>
  if name = "" ∨ name.toList.any (fun c => c == '=' || c == '\x00') then none
  else vars.lookup name

end Environment
end OrgPipeline
