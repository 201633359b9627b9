import ShaderDriver.Proofs.Cli.Success

/-!
# ShaderDriver.Proofs.Cli.Tracing

**Tracing changes nothing but what is printed.** Two environments that name the same compiler, of
which one asks for tracing, configure runs that differ in a flag (`Config.load_cases`). Both run the
same jobs with the same outcomes, the same calls and the same files, or both are refused; and what is
printed with traces is, job by job, what is printed without them between the line that announces the
job and the line of its result.
-/

namespace ShaderDriver

namespace Config

theorem isDebug_eq_true_iff {environment : Environment} :
    isDebug environment = true ↔
      ∃ value, environment.lookup debugVariable = some value ∧ value ≠ "" ∧ value ≠ "0" := by
  unfold isDebug
  cases environment.lookup debugVariable <;> simp

/-- Environments that name the same compiler are refused for the same reason, or give the same
factory; whether jobs are traced is up to each. -/
theorem load_cases {φ : Type} (modules : ModuleTable φ) {environment other : Environment}
    (hcompiler : other.lookup compilerVariable = environment.lookup compilerVariable) :
    (∃ fault, load modules environment = .error fault ∧ load modules other = .error fault) ∨
      ∃ factory, load modules environment = .ok { factory, debug := isDebug environment } ∧
        load modules other = .ok { factory, debug := isDebug other } := by
  unfold load
  rw [hcompiler]
  split
  · exact .inr ⟨none, rfl, rfl⟩
  · exact .inr ⟨none, rfl, rfl⟩
  · rename_i spec _ _
    cases loadFactory modules spec with
    | error fault => exact .inl ⟨fault, rfl, rfl⟩
    | ok factory => exact .inr ⟨some factory, rfl, rfl⟩

end Config

namespace Cli

variable {φ : Type}

/-- In an environment that cannot be used, nothing is run. -/
theorem run_of_fault (compilers : Compilers φ) (argv : List String)
    {environment : Config.Environment} (files : FileTree) {fault : Config.Fault}
    (hfault : Config.load compilers.modules environment = .error fault) :
    run compilers argv environment files = .refused fault files := by
  simp only [run, runWith, hfault]

/-- **Tracing changes nothing but what is printed.** Of two environments that name the same compiler,
let one ask for tracing. Both runs have the same verdict and leave the same files. If the environment
cannot be used, both print the same diagnostic and run nothing. Otherwise they run the same jobs,
with the same outcomes and the same journals, and leave the same workspace. What is printed with
traces is then made of, job by job, the line that announces the job, if its arguments are recognized;
what is printed without traces; and the line of the result, if there is one. -/
theorem run_traced (compilers : Compilers φ) (argv : List String) (files : FileTree)
    {quiet traced : Config.Environment}
    (hcompiler : traced.lookup Config.compilerVariable = quiet.lookup Config.compilerVariable)
    (hquiet : ∀ value, quiet.lookup Config.debugVariable = some value → value = "" ∨ value = "0")
    (htraced : ∃ value,
      traced.lookup Config.debugVariable = some value ∧ value ≠ "" ∧ value ≠ "0") :
    ((run compilers argv traced files).verdict = (run compilers argv quiet files).verdict ∧
      (run compilers argv traced files).files = (run compilers argv quiet files).files) ∧
    ((∃ fault, Config.load compilers.modules quiet = .error fault ∧
        run compilers argv quiet files = .refused fault files ∧
        run compilers argv traced files = .refused fault files ∧
        (run compilers argv traced files).printed = (run compilers argv quiet files).printed) ∨
      ∃ factory log tracedLog last,
        (({ makeCaps := .named, debug := false } : Runner Caps Unit).runBatch argv
              { files, cache := { factory := () }, compiler := compilers.startOf factory } =
            (log, last) ∧
          ({ makeCaps := .named, debug := true } : Runner Caps Unit).runBatch argv
              { files, cache := { factory := () }, compiler := compilers.startOf factory } =
            (tracedLog, last)) ∧
        run compilers argv quiet files = .completed { factory, debug := false } log last.files ∧
        run compilers argv traced files =
          .completed { factory, debug := true } tracedLog last.files ∧
        tracedLog.entries.map (fun entry => (entry.args, entry.outcome, entry.detail)) =
          log.entries.map (fun entry => (entry.args, entry.outcome, entry.detail)) ∧
        (run compilers argv quiet files).printed = log.entries.flatMap Batch.Entry.printed ∧
        (run compilers argv traced files).printed =
          log.entries.flatMap (fun entry =>
            Command.announcement entry.args ++ entry.printed ++ entry.resultLine) ∧
        ∀ entry ∈ log.entries,
          (∀ code, entry.outcome = .ok code → entry.resultLine =
            utf8 ("skslc: " ++ " ".intercalate entry.args.tail ++ ": " ++ code.name ++ "\n")) ∧
          ∀ fault, entry.outcome = .error fault → entry.resultLine = []) ∧
    ∀ args,
      (∀ command kind target, Command.Recognizes args command kind target →
        Command.announcement args =
          utf8 ("skslc: " ++ command.input ++ " -> " ++ command.output ++
            " (" ++ kind.name ++ ", " ++ target.name ++ ")\n")) ∧
      ((∀ command kind target, ¬ Command.Recognizes args command kind target) →
        Command.announcement args = []) := by
  have hquiet' : Config.isDebug quiet = false := by
    rw [Bool.eq_false_iff, Ne, Config.isDebug_eq_true_iff]
    rintro ⟨value, hlookup, hempty, hzero⟩
    exact (hquiet value hlookup).elim hempty hzero
  have htraced' : Config.isDebug traced = true := Config.isDebug_eq_true_iff.mpr htraced
  have hannounced : ∀ args,
      (∀ command kind target, Command.Recognizes args command kind target →
        Command.announcement args = command.traceLine kind target) ∧
      ((∀ command kind target, ¬ Command.Recognizes args command kind target) →
        Command.announcement args = []) :=
    fun args => ⟨fun _ _ _ h => Command.announcement_eq h, Command.announcement_eq_nil⟩
  obtain ⟨fault, hload, hload'⟩ | ⟨factory, hload, hload'⟩ :=
    Config.load_cases compilers.modules hcompiler
  · rw [run_of_fault compilers argv files hload, run_of_fault compilers argv files hload']
    exact ⟨⟨rfl, rfl⟩, .inl ⟨fault, hload, rfl, rfl, rfl⟩, hannounced⟩
  · rw [hquiet'] at hload
    rw [htraced'] at hload'
    have hannounce := Runner.runBatch_eq_announced
      ({ makeCaps := .named, debug := true } : Runner Caps Unit) argv
      { files, cache := { factory := () }, compiler := compilers.startOf factory }
    rw [Runner.lead_of_debug rfl] at hannounce
    rw [run_of_load compilers argv files hload, run_of_load compilers argv files hload', hannounce]
    generalize hquietly : Runner.runBatch ({ makeCaps := .named } : Runner Caps Unit) argv _ = result
      at hannounce ⊢
    obtain ⟨log, last⟩ := result
    refine ⟨⟨log.verdict_announced _, rfl⟩, .inr ⟨factory, log, _, last, ⟨hquietly, hannounce⟩, rfl,
      rfl, ?_, log.printed_untraced, log.printed_announced _, ?_⟩, hannounced⟩
    · rw [Batch.Log.announced, List.map_map]
      rfl
    · intro entry _
      exact ⟨fun _ => Batch.Entry.resultLine_of_ok, fun _ => Batch.Entry.resultLine_of_error⟩

/-- The output of a job that is refused stands between its two traces. -/
theorem run_traced_verbatim :
    (run verbatimCompilers ["skslc", "refused.frag", "a.h", "--", "plain.frag", "b.h"]
        [("SKSLC_DEBUG", "1"), ("SKSLC_COMPILER", "shaders:verbatim")] refusedAndPlain).verdict =
      .ok .inputError ∧
    (run verbatimCompilers ["skslc", "refused.frag", "a.h", "--", "plain.frag", "b.h"]
        [("SKSLC_DEBUG", "1"), ("SKSLC_COMPILER", "shaders:verbatim")] refusedAndPlain).printed =
      utf8 ("skslc: refused.frag -> a.h (fragment, h)\n" ++
        "Unrecognized #pragma settings:  Nonsense\n" ++
        "skslc: refused.frag a.h: INPUT_ERROR\n" ++
        "skslc: plain.frag -> b.h (fragment, h)\n" ++
        "skslc: plain.frag b.h: SUCCESS\n") := by
  obtain ⟨⟨hverdict, -⟩, -⟩ := @run_traced Unit verbatimCompilers
    ["skslc", "refused.frag", "a.h", "--", "plain.frag", "b.h"] refusedAndPlain
    [("SKSLC_DEBUG", "0"), ("SKSLC_COMPILER", "shaders:verbatim")]
    [("SKSLC_DEBUG", "1"), ("SKSLC_COMPILER", "shaders:verbatim")]
    rfl (fun value h => .inr (Option.some.inj h).symm) ⟨"1", rfl, by decide, by decide⟩
  exact ⟨hverdict.trans (by decide +kernel), by decide +kernel⟩

end Cli

end ShaderDriver
