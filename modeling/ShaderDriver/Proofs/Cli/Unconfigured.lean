import ShaderDriver.Proofs.Cli.Success
import ShaderDriver.Proofs.Runner.Unserved

/-!
# ShaderDriver.Proofs.Cli.Unconfigured

**Without a configured compiler nothing ever passes.** An environment that names no compiler, or
names it by the empty text, configures a run with the compiler that stands in. Every job then ends
as a job without a compiler does (`Runner.perform_unserved`), and as there is at least one, the worst
outcome is not success.
-/

namespace ShaderDriver

/-- An environment that names no compiler can be used. -/
theorem Config.load_of_unset {φ : Type} (modules : ModuleTable φ) {environment : Environment}
    (hunset : environment.lookup compilerVariable = none ∨
      environment.lookup compilerVariable = some "") :
    load modules environment = .ok { factory := none, debug := isDebug environment } := by
  unfold load
  obtain hnone | hempty := hunset
  · rw [hnone]
  · rw [hempty]
    rfl

namespace Cli

variable {φ : Type}

/-- **Without a configured compiler nothing ever passes.** Let the environment name no compiler, and
let there be a job on the command line and no U+0000. Then every job is run, on the files that those
before it have left. Its outcome is an input error if it does not pass the checks of its input, an
output error if it does and its output cannot be opened, and a compile error in all other cases;
then it prints the diagnostic for a missing compiler, which is also what its output holds behind the
banner. The program ends in an error. -/
theorem run_unconfigured (compilers : Compilers φ) (argv : List String)
    {environment : Config.Environment} (files : FileTree)
    (hunset : environment.lookup Config.compilerVariable = none ∨
      environment.lookup Config.compilerVariable = some "")
    (hnull : ∀ arg ∈ argv, '\x00' ∉ arg.toList)
    (hjob : ∃ arg ∈ argv.tail, arg ≠ Batch.delimiter) :
    ∃ log after, run compilers argv environment files =
        .completed { factory := none, debug := Config.isDebug environment } log after ∧
      (∃ code, (run compilers argv environment files).verdict = .ok code ∧ code ≠ .success) ∧
      log.entries.map Batch.Entry.args = Batch.split argv ∧
      Batch.Steps
        (fun entry before left => ∃ code, entry.outcome = .ok code ∧
          ((code = .inputError ↔ ¬ Command.Passes entry.args before) ∧
            (code = .outputError ↔
              Command.Passes entry.args before ∧ ¬ Command.OutputOpens entry.args before) ∧
            (code = .compileError ↔
              Command.Passes entry.args before ∧ Command.OutputOpens entry.args before)) ∧
          Runner.Unserved (Config.isDebug environment) entry.args before code entry.printed left)
        log.entries files after ∧
      (Config.isDebug environment = false →
        (run compilers argv environment files).printed =
          log.entries.flatMap Batch.Entry.printed) := by
  have hpaths : ∀ args ∈ Batch.split argv, Command.PathsNonNull args :=
    fun args hargs => Command.pathsNonNull_of_mem_split hnull hargs
  let runner : Runner Caps Unit := { makeCaps := .named, debug := Config.isDebug environment }
  let workspace : Workspace (compilers.toolchainOf none) Unit :=
    { files, cache := { factory := () }, compiler := compilers.startOf none }
  obtain ⟨hargs, hverdict⟩ :=
    @Runner.runBatch_unserved Caps Unit runner argv CapsFactory.answers_named hpaths
      (Batch.split_ne_nil hjob) workspace
  have hsteps : Batch.Steps _ (runner.runBatch argv workspace).1.entries files
      (runner.runBatch argv workspace).2.files :=
    Runner.perform_unserved CapsFactory.answers_named hpaths workspace
  rw [run_of_load compilers argv files (Config.load_of_unset compilers.modules hunset)]
  refine ⟨_, _, rfl, hverdict, hargs, ?_, ?_⟩
  · exact hsteps.mono fun entry before left ⟨code, hcode, hunserved⟩ =>
      ⟨code, hcode, hunserved.outcome_iff, hunserved⟩
  · intro hquiet
    rw [Run.printed, hquiet]
    exact Batch.Log.printed_untraced _

/-- A module, a source that is refused, and an output that is a full device. -/
theorem run_unconfigured_empty :
    ∃ log after, run verbatimCompilers
        ["skslc", "plain.sksl", "a.dehydrated.sksl", "--", "refused.frag", "b.glsl", "--",
          "plain.frag", "full.glsl"]
        [("SKSLC_COMPILER", "")]
        ((refusedAndPlain.put ["plain.sksl"] (.regular [])).put ["full.glsl"] .full) =
        .completed { factory := none, debug := false } log after ∧
      (∃ code, log.verdict = .ok code ∧ code ≠ .success) ∧
      log.entries.map Batch.Entry.args =
        [["skslc", "plain.sksl", "a.dehydrated.sksl"], ["skslc", "refused.frag", "b.glsl"],
          ["skslc", "plain.frag", "full.glsl"]] ∧
      after.node? ["a.dehydrated.sksl"] =
        some (.regular (failureBanner ++ utf8 (Toolchain.unavailableMessage ++ "\n"))) := by
  obtain ⟨log, after, hrun, hverdict, hargs, -⟩ := @run_unconfigured Unit verbatimCompilers
    ["skslc", "plain.sksl", "a.dehydrated.sksl", "--", "refused.frag", "b.glsl", "--",
      "plain.frag", "full.glsl"] [("SKSLC_COMPILER", "")]
    ((refusedAndPlain.put ["plain.sksl"] (.regular [])).put ["full.glsl"] .full) (.inr rfl)
    (by decide) ⟨"plain.frag", by decide⟩
  have hafter := congrArg (·.files.node? ["a.dehydrated.sksl"]) hrun
  rw [hrun] at hverdict
  exact ⟨log, after, hrun, hverdict, hargs, hafter.symm.trans (by decide +kernel)⟩

end Cli

end ShaderDriver
