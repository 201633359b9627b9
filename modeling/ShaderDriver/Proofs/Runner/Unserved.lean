import ShaderDriver.Proofs.Build.Diagnosis
import ShaderDriver.Proofs.Runner.Escapes

/-!
# ShaderDriver.Proofs.Runner.Unserved

**Jobs without a compiler.** The compiler that stands in when none is configured rejects every
program and every module, so a job cannot succeed; all that is left open is how far it comes.
`Runner.Unserved` has one rule for each answer: the job does not pass the checks of its input, its
output cannot be opened, or the diagnostic becomes its output. The conditions of the rules exclude
each other and leave nothing out, and they look at the arguments and the files only.
-/

namespace ShaderDriver

variable {β κ : Type}

/-- A command passes the checks of its input: its arguments are recognized, its source can be read,
and its settings comment is accepted or ignored. -/
def Command.Passes (args : List String) (files : FileTree) : Prop :=
  ∃ command kind target, Recognizes args command kind target ∧ command.Prepares files

namespace Runner

/-- What comes of a job without a compiler: its outcome, what it prints, and the files it leaves. -/
inductive Unserved (debug : Bool) (args : List String) (files : FileTree) :
    ResultCode → Bytes → FileTree → Prop
  | refused {printed : Bytes} (hrefused : ¬ Command.Passes args files) :
    Unserved debug args files .inputError printed files
  | unopened {printed : Bytes} (hpasses : Command.Passes args files)
    (hopens : ¬ Command.OutputOpens args files) :
    Unserved debug args files .outputError printed files
  /-- The output holds the banner and the diagnostic, unless it is a full device; the diagnostic is
  printed, behind the line that announces the job if jobs are traced. -/
  | diagnosed {command : Command} {path : FilePath} {sink : Sink}
    (hpasses : Command.Passes args files) (hargs : Command.ofArgs args = .ok command)
    (hpath : FilePath.ofString? command.output = some path)
    (hsink : (OutputStream.openPath path files).1.sink = some sink) :
    Unserved debug args files .compileError
      ((if debug then Command.announcement args else []) ++
        utf8 (Toolchain.unavailableMessage ++ "\n"))
      (sink.fill (failureBanner ++ utf8 (Toolchain.unavailableMessage ++ "\n")) files)

/-- The outcome of a job without a compiler tells how far it has come. -/
theorem Unserved.outcome_iff {debug : Bool} {args : List String} {files after : FileTree}
    {code : ResultCode} {printed : Bytes} (h : Unserved debug args files code printed after) :
    (code = .inputError ↔ ¬ Command.Passes args files) ∧
      (code = .outputError ↔ Command.Passes args files ∧ ¬ Command.OutputOpens args files) ∧
      (code = .compileError ↔ Command.Passes args files ∧ Command.OutputOpens args files) := by
  cases h with
  | refused hrefused => simp [hrefused]
  | unopened hpasses hopens => simp [hpasses, hopens]
  | diagnosed hpasses hargs hpath hsink =>
    have hopens : Command.OutputOpens args files := ⟨_, _, _, hargs, hpath, hsink⟩
    simp [hpasses, hopens]

/-- No job without a compiler succeeds. -/
theorem Unserved.ne_success {debug : Bool} {args : List String} {files after : FileTree}
    {code : ResultCode} {printed : Bytes} (h : Unserved debug args files code printed after) :
    code ≠ .success := by
  cases h <;> decide

variable {runner : Runner β κ} {args : List String}
  {workspace after : Workspace (.unavailable β) κ} {report : JobReport (.unavailable β)}

/-- The diagnostic for a missing compiler is a whole line. -/
theorem closeLine_unavailable : closeLine (utf8 (Toolchain.unavailableMessage ++ "\n")) =
    utf8 (Toolchain.unavailableMessage ++ "\n") := by
  have hend : utf8 "\n" = [newline] := rfl
  rw [utf8_append, hend]
  exact closeLine_of_getLast? List.getLast?_concat

/-- Every course of a job without a compiler ends in one of these ways. -/
theorem Course.unserved (h : runner.Course args workspace report after)
    (hmake : runner.makeCaps.Answers) (hpaths : Command.PathsNonNull args) :
    ∃ code, report.outcome = .ok code ∧
      Unserved runner.debug args workspace.files code report.printed after.files := by
  cases h with
  | refused hargs =>
    refine ⟨.inputError, rfl, .refused ?_⟩
    rintro ⟨command, kind, target, hrecognizes, -⟩
    exact Command.not_recognizes_of_refusal hargs hrecognizes
  | unplanned hargs hplan =>
    refine ⟨.inputError, congrArg Except.ok (Command.resultCode_of_plan hplan), .refused ?_⟩
    rintro ⟨other, kind, target, hrecognizes, -⟩
    exact Command.not_recognizes_of_plan hargs hplan hrecognizes
  | @unprepared command kind target stop cache hargs hplan hprepare =>
    cases stop with
    | escaped escape =>
      obtain ⟨-, hnull⟩ := (prepare_escapes_iff hmake).mp (congrArg Prod.fst hprepare)
      exact absurd hnull (hpaths command hargs).1
    | failed failure =>
      refine ⟨.inputError, congrArg Except.ok (resultCode_of_prepare hprepare), .refused ?_⟩
      rw [Command.Passes, Command.exists_recognizes_iff hargs hplan, ← prepare_eq_ok_iff hmake,
        hprepare]
      simp
  | @built command kind target job cache hargs hplan hprepare =>
    have hpath := outputPath_of_prepare hprepare
    have hpasses : Command.Passes args workspace.files :=
      (Command.exists_recognizes_iff hargs hplan).mpr
        ((prepare_eq_ok_iff hmake).mp ⟨job, congrArg Prod.fst hprepare⟩)
    have hopens_iff := outputOpens_iff workspace.files hargs hpath
    by_cases hopens : Command.OutputOpens args workspace.files
    · obtain ⟨path, sink, hopens⟩ := hopens_iff.mp hopens
      obtain ⟨houtcome, hfiles⟩ := build_unavailable target hopens workspace.compiler
      have hdiagnosed : Unserved runner.debug args workspace.files .compileError _ _ :=
        .diagnosed hpasses hargs (hpath ▸ hopens.1) hopens.2
      rw [Command.announcement_eq (Command.recognizes_iff.mpr ⟨hargs, hplan⟩)] at hdiagnosed
      refine ⟨.compileError, ?_, ?_⟩
      · rw [houtcome]
        rfl
      · simp only [houtcome, hfiles, JobReport.ofOutcome, Failure.text_report, Failure.message,
          closeLine_unavailable]
        exact hdiagnosed
    · have hnot : ∀ path sink, ¬ job.OpensOn workspace.files path sink :=
        fun path sink h => hopens (hopens_iff.mpr ⟨path, sink, h⟩)
      rw [build_of_not_opens hnot, hpath, if_neg (hpaths command hargs).2]
      exact ⟨.outputError, rfl, .unopened hpasses hopens⟩

/-- The jobs of a batch without a compiler end in these ways, each on the files that the one before
it has left. -/
theorem perform_unserved {jobs : List (List String)} (hmake : runner.makeCaps.Answers)
    (hpaths : ∀ args ∈ jobs, Command.PathsNonNull args)
    (workspace : Workspace (.unavailable β) κ) :
    Batch.Steps
      (fun entry before after => ∃ code, entry.outcome = .ok code ∧
        Unserved runner.debug entry.args before code entry.printed after)
      (Batch.perform runner.batchJob jobs workspace).1 workspace.files
      (Batch.perform runner.batchJob jobs workspace).2.files := by
  have hjob : ∀ args ∈ jobs, ∀ state : Workspace (.unavailable β) κ,
      ∃ code, (runner.entryIn state args).outcome = .ok code ∧
        Unserved runner.debug args state.files code (runner.entryIn state args).printed
          (runner.run args state).2.files := by
    intro args hargs state
    obtain ⟨code, hcode, hunserved⟩ :=
      (runner.run_course args state).unserved hmake (hpaths args hargs)
    exact ⟨code, outcome_entryIn_eq_ok_iff.mpr hcode, hunserved⟩
  exact (Batch.perform_steps hjob).project

/-- A batch without a compiler runs all its jobs, and it does not succeed if there is one. -/
theorem runBatch_unserved {argv : List String} (hmake : runner.makeCaps.Answers)
    (hpaths : ∀ args ∈ Batch.split argv, Command.PathsNonNull args) (hjob : Batch.split argv ≠ [])
    (workspace : Workspace (.unavailable β) κ) :
    (runner.runBatch argv workspace).1.entries.map Batch.Entry.args = Batch.split argv ∧
      ∃ code, (runner.runBatch argv workspace).1.verdict = .ok code ∧ code ≠ .success := by
  have hcodes : ∀ entry ∈ (runner.runBatch argv workspace).1.entries,
      ∃ code, entry.outcome = .ok code ∧ code ≠ .success :=
    (perform_unserved hmake hpaths workspace).forall_mem
      fun _ _ _ ⟨code, hcode, hunserved⟩ => ⟨code, hcode, hunserved.ne_success⟩
  have hargs := Batch.args_perform_of_ok fun entry hentry =>
    (hcodes entry hentry).imp fun _ hcode => hcode.1
  obtain ⟨code, hcode⟩ := exists_verdict hmake hpaths workspace
  refine ⟨hargs, code, hcode, ?_⟩
  rintro rfl
  have hentries := hjob
  rw [← hargs, Ne, List.map_eq_nil_iff] at hentries
  obtain ⟨entry, hentry⟩ := List.exists_mem_of_ne_nil _ hentries
  obtain ⟨code, hother, hne⟩ := hcodes entry hentry
  have hsuccess := Batch.Log.verdict_eq_success_iff.mp hcode entry hentry
  exact hne (Except.ok.inj (hother.symm.trans hsuccess))

end Runner

end ShaderDriver
