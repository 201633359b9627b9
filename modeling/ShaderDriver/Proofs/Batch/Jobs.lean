import ShaderDriver.Cli
import ShaderDriver.Proofs.Batch.Perform
import ShaderDriver.Proofs.Batch.Segments
import ShaderDriver.Proofs.Runner.Answers
import ShaderDriver.Proofs.Runner.Footprint
import ShaderDriver.Proofs.Runner.Tracing

/-!
# ShaderDriver.Proofs.Batch.Jobs

**Commands as the jobs of a batch.** A batch knows the outcome of a job by its number; the numbers
that a runner gives are those of result codes, so the outcome of an entry is that of the command
(`outcome_entryIn`). What every command leaves alone, a batch of them does (`node?_perform`), and a
runner that traces runs the same batch (`runBatch_eq_announced`).
-/

namespace ShaderDriver

/-! ### Arguments -/

/-- No path of a job holds U+0000 if no argument does. -/
theorem Command.pathsNonNull_of_mem_split {argv args : List String}
    (hargv : ∀ arg ∈ argv, '\x00' ∉ arg.toList) (h : args ∈ Batch.split argv) :
    PathsNonNull args := by
  intro command hargs
  obtain ⟨hinput, houtput, -⟩ := ofArgs_eq_ok hargs
  have hsubset := Batch.subset_of_mem_split h
  exact ⟨hargv _ (hsubset (List.mem_of_getElem? hinput)),
    hargv _ (hsubset (List.mem_of_getElem? houtput))⟩

/-! ### Jobs -/

namespace Runner

variable {β κ : Type} {tc : Toolchain β} {runner : Runner β κ} {jobs : List (List String)}
  {workspace : Workspace tc κ}

/-- The entry of a job that is run in a workspace. -/
def entryIn (runner : Runner β κ) (workspace : Workspace tc κ) (args : List String) :
    Batch.Entry Escape (List (Event tc)) :=
  .ofReply args (runner.batchJob args workspace).1

@[simp] theorem batchJob_snd (runner : Runner β κ) (args : List String)
    (workspace : Workspace tc κ) :
    (runner.batchJob args workspace).2 = (runner.run args workspace).2 := rfl

theorem outcome_entryIn (runner : Runner β κ) (workspace : Workspace tc κ) (args : List String) :
    (runner.entryIn workspace args).outcome =
      (runner.run args workspace).1.outcome.mapError .escaped := by
  change Batch.check ((runner.run args workspace).1.outcome.map _) = _
  cases (runner.run args workspace).1.outcome with
  | error escape => rfl
  | ok code => simp [Batch.check, Except.map, Except.mapError]

@[simp] theorem outcome_entryIn_eq_ok_iff {args : List String} {code : ResultCode} :
    (runner.entryIn workspace args).outcome = .ok code ↔
      (runner.run args workspace).1.outcome = .ok code := by
  rw [outcome_entryIn]
  cases (runner.run args workspace).1.outcome <;> simp [Except.mapError]

/-- The entry of a job whose paths hold no U+0000 has a result code. -/
theorem exists_code_entryIn (hmake : runner.makeCaps.Answers) {args : List String}
    (hpaths : Command.PathsNonNull args) (workspace : Workspace tc κ) :
    ∃ code, (runner.entryIn workspace args).outcome = .ok code := by
  obtain ⟨code, hcode⟩ := run_answers hmake hpaths workspace
  exact ⟨code, outcome_entryIn_eq_ok_iff.mpr hcode⟩

/-- Every job of a batch was run in some workspace. -/
theorem exists_entryIn_of_mem {entry : Batch.Entry Escape (List (Event tc))}
    (h : entry ∈ (Batch.perform runner.batchJob jobs workspace).1) :
    entry.args ∈ jobs ∧ ∃ between, entry = runner.entryIn between entry.args := by
  refine ⟨?_, Batch.exists_of_mem_perform h⟩
  exact (Batch.args_perform_isPrefix runner.batchJob jobs workspace).subset
    (List.mem_map_of_mem h)

/-- Every job that is run has a result code, if no path holds U+0000 and the factory does not break
down. -/
theorem exists_code_of_mem (hmake : runner.makeCaps.Answers)
    (hpaths : ∀ args ∈ jobs, Command.PathsNonNull args)
    {entry : Batch.Entry Escape (List (Event tc))}
    (h : entry ∈ (Batch.perform runner.batchJob jobs workspace).1) :
    ∃ code, entry.outcome = .ok code := by
  obtain ⟨hargs, between, hentry⟩ := exists_entryIn_of_mem h
  rw [hentry]
  exact exists_code_entryIn hmake (hpaths entry.args hargs) between

/-- A batch ends in a result code, if no path holds U+0000 and the factory does not break down. -/
theorem exists_verdict (hmake : runner.makeCaps.Answers) {argv : List String}
    (hpaths : ∀ args ∈ Batch.split argv, Command.PathsNonNull args)
    (workspace : Workspace tc κ) :
    ∃ code, (runner.runBatch argv workspace).1.verdict = .ok code := by
  have hcodes : ∀ entry ∈ (runner.runBatch argv workspace).1.entries,
      ∃ code, entry.outcome = .ok code := fun entry hentry => exists_code_of_mem hmake hpaths hentry
  obtain ⟨code, hcode, -⟩ := Batch.Log.verdict_of_perm (.refl _) hcodes
  exact ⟨code, hcode⟩

/-- A batch leaves every location alone but those of the outputs of the jobs that are run. -/
theorem node?_perform_of_entries {location : Location}
    (hne : ∀ entry ∈ (Batch.perform runner.batchJob jobs workspace).1,
      Command.outputOf? entry.args ≠ some location) :
    (Batch.perform runner.batchJob jobs workspace).2.files.node? location =
      workspace.files.node? location := by
  refine @Batch.perform_keeps _ _ _ runner.batchJob jobs workspace
    (fun after => after.files.node? location = workspace.files.node? location) rfl ?_
  intro entry hentry before hbefore
  exact (runner.node?_run before (hne entry hentry)).trans hbefore

theorem node?_perform {location : Location}
    (hne : ∀ args ∈ jobs, Command.outputOf? args ≠ some location) :
    (Batch.perform runner.batchJob jobs workspace).2.files.node? location =
      workspace.files.node? location :=
  node?_perform_of_entries fun entry hentry => hne entry.args (exists_entryIn_of_mem hentry).1

/-- Tracing changes nothing of a batch but what is printed in front of its jobs. -/
theorem runBatch_eq_announced (runner : Runner β κ) (argv : List String)
    (workspace : Workspace tc κ) :
    runner.runBatch argv workspace =
      ((({ makeCaps := runner.makeCaps } : Runner β κ).runBatch argv workspace).1.announced
          runner.lead,
        (({ makeCaps := runner.makeCaps } : Runner β κ).runBatch argv workspace).2) := by
  simp only [runBatch_eq, Batch.run]
  rw [@Batch.perform_announced _ _ _ ({ makeCaps := runner.makeCaps } : Runner β κ).batchJob
    (Batch.split argv) workspace runner.batchJob runner.lead]
  · rfl
  · intro args state
    rw [batchJob_eq, run_eq_announced]
    rfl

end Runner

end ShaderDriver
