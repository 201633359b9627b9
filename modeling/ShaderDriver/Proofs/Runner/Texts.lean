import ShaderDriver.Proofs.Batch.Jobs
import ShaderDriver.Proofs.Batch.Reduction
import ShaderDriver.Proofs.Build.Encoding

/-!
# ShaderDriver.Proofs.Runner.Texts

**The texts that a job puts out.** A job prints at most two texts, the line that traces it or the
usage text, and the message it fails with; between them, it may store a diagnostic. `Runner.texts`
are these texts, in order. A codec makes a difference to a job only by what it says of them: if it
takes them all, it makes none (`Runner.runWith_eq_run`); if not, the job ends in the complaint about
the first one that is not taken (`Runner.outcome_runWith_of_complaint`).

The texts of a batch are those of its jobs (`Runner.allTexts`). A batch is the same for every codec
that takes them all (`Runner.perform_eq_of_taken`), and otherwise the job that has the first text
which is not taken is the last one that is run (`Runner.perform_of_complaint`).
-/

namespace ShaderDriver

variable {β κ : Type} {tc : Toolchain β} {codec : Codec tc}

/-! ### Texts and complaints -/

/-- A text on its way out. -/
inductive Text (tc : Toolchain β) where
  | printed (text : Bytes)
  /-- A diagnostic that is stored in the output; the compiler that gave it is in this state. -/
  | stored (compiler : tc.State) (diagnostic : Bytes)

/-- What a codec says of a text that it does not take. -/
def Codec.complaint? (codec : Codec tc) : Text tc → Option Crash
  | .printed text => codec.unprintable? text
  | .stored compiler diagnostic => codec.unencodable? compiler diagnostic

/-- The codec that takes every text has no complaint. -/
theorem Codec.findSome?_complaint?_total (texts : List (Text tc)) :
    texts.findSome? Codec.total.complaint? = none := by
  rw [List.findSome?_eq_none_iff]
  rintro (_ | _) - <;> rfl

/-- The message that a job prints, by what it comes to. -/
def Text.ofOutcome : Except Stop Unit → List (Text tc)
  | .error (.failed failure) => [.printed failure.message]
  | .ok () | .error (.escaped _) => []

/-- The diagnostic that a build stores, if it ends in one. -/
def Built.diagnostics (built : Built tc) : List (Text tc) :=
  match built.outcome with
  | .error (.failed (.compilation diagnostic)) => [.stored built.compiler diagnostic]
  | _ => []

/-- The texts that are put out over a build: the diagnostic, and the message. -/
def Built.texts (built : Built tc) : List (Text tc) :=
  built.diagnostics ++ Text.ofOutcome built.outcome

namespace Runner

/-- The texts that a command of the right shape puts out, in order, where each of them is taken. -/
def commandTexts (runner : Runner β κ) (command : Command) (workspace : Workspace tc κ) :
    List (Text tc) :=
  match command.plan with
  | .error failure => [.printed failure.message]
  | .ok (kind, target) =>
    .printed (runner.traced command kind target) ::
      match prepare runner.makeCaps command kind workspace.files workspace.cache with
      | (.error stop, _) => Text.ofOutcome (.error stop)
      | (.ok job, _) => (build target job workspace.files workspace.compiler).texts

/-- The texts that a job puts out. -/
def texts (runner : Runner β κ) (args : List String) (workspace : Workspace tc κ) :
    List (Text tc) :=
  match Command.ofArgs args with
  | .error refusal => [.printed refusal.message]
  | .ok command => runner.commandTexts command workspace

end Runner

/-! ### Reports and builds -/

/-- A report is not interrupted if standard output takes the message. -/
theorem JobReport.ofOutcomeWith_of_taken {outcome : Except Stop Unit}
    (h : (Text.ofOutcome outcome).findSome? codec.complaint? = none) (traced : Bytes)
    (journal : List (Event tc)) :
    ofOutcomeWith codec outcome traced journal = ofOutcome outcome traced journal := by
  rcases outcome with (failure | escape) | _
  · have hprinted : codec.unprintable? failure.report.text = none := by
      simpa [Text.ofOutcome, Codec.complaint?] using h
    simp only [ofOutcomeWith, hprinted]
  · rfl
  · rfl

theorem JobReport.outcome_ofOutcomeWith_of_complaint {outcome : Except Stop Unit}
    {complaint : Crash} (h : (Text.ofOutcome outcome).findSome? codec.complaint? = some complaint)
    (traced : Bytes) (journal : List (Event tc)) :
    (ofOutcomeWith codec outcome traced journal).outcome = .error (.unencodable complaint) := by
  rcases outcome with (failure | escape) | _
  · have hprinted : codec.unprintable? failure.report.text = some complaint := by
      simpa [Text.ofOutcome, Codec.complaint?] using h
    simp only [ofOutcomeWith, hprinted, interrupted]
  · cases h
  · cases h

section Builds

variable {target : Target} {job : Job β} {files : FileTree} {compiler : tc.State}

theorem Built.diagnostics_of_compilation {built : Built tc} {diagnostic : Bytes}
    (h : built.outcome = .error (.failed (.compilation diagnostic))) :
    built.diagnostics = [.stored built.compiler diagnostic] := by
  simp only [diagnostics, h]

/-- A codec that has no complaint about the stored diagnostic takes it. -/
theorem Codec.takes_of_complaint? (h : (build target job files compiler).diagnostics.findSome?
    codec.complaint? = none) : codec.Takes target job files compiler := by
  intro diagnostic hdiagnostic
  rw [Built.diagnostics_of_compilation hdiagnostic] at h
  simpa [Codec.complaint?] using h

/-- The complaint about the stored diagnostic is what the build ends with. -/
theorem outcome_buildWith_of_complaint {complaint : Crash}
    (h : (build target job files compiler).diagnostics.findSome? codec.complaint? =
      some complaint) :
    (buildWith codec target job files compiler).outcome =
      .error (.escaped (.unencodable complaint)) := by
  unfold Built.diagnostics at h
  split at h
  · rename_i diagnostic hdiagnostic
    exact outcome_buildWith_of_unencodable hdiagnostic (by simpa [Codec.complaint?] using h)
  · cases h

/-- A codec that takes all texts of a build makes no difference to it and to its report. -/
theorem buildWith_of_taken
    (h : (build target job files compiler).texts.findSome? codec.complaint? = none) :
    buildWith codec target job files compiler = build target job files compiler ∧
      ∀ traced (journal : List (Event tc)),
        JobReport.ofOutcomeWith codec (build target job files compiler).outcome traced journal =
          .ofOutcome (build target job files compiler).outcome traced journal := by
  rw [Built.texts, List.findSome?_append, Option.or_eq_none_iff] at h
  exact ⟨buildWith_eq_build (Codec.takes_of_complaint? h.1),
    JobReport.ofOutcomeWith_of_taken h.2⟩

/-- The first complaint about a text of a build is what its report ends with. -/
theorem outcome_ofOutcomeWith_buildWith {complaint : Crash}
    (h : (build target job files compiler).texts.findSome? codec.complaint? = some complaint)
    (traced : Bytes) (journal : List (Event tc)) :
    (JobReport.ofOutcomeWith codec (buildWith codec target job files compiler).outcome traced
      journal).outcome = .error (.unencodable complaint) := by
  rw [Built.texts, List.findSome?_append] at h
  cases hstored : (build target job files compiler).diagnostics.findSome? codec.complaint? with
  | some first =>
    rw [hstored, Option.some_or] at h
    rw [outcome_buildWith_of_complaint hstored, Option.some.inj h]
    rfl
  | none =>
    rw [hstored, Option.none_or] at h
    rw [buildWith_eq_build (Codec.takes_of_complaint? hstored)]
    exact JobReport.outcome_ofOutcomeWith_of_complaint h traced journal

end Builds

/-! ### Jobs -/

namespace Runner

variable {runner : Runner β κ} {args : List String} {workspace : Workspace tc κ}

theorem executeWith_eq_execute {command : Command}
    (h : (runner.commandTexts command workspace).findSome? codec.complaint? = none) :
    runner.executeWith codec command workspace = runner.execute command workspace := by
  rw [execute_eq]
  unfold commandTexts at h
  unfold executeWith
  cases hplan : command.plan with
  | error failure =>
    rw [hplan] at h
    dsimp only
    rw [JobReport.ofOutcomeWith_of_taken h]
  | ok plan =>
    obtain ⟨kind, target⟩ := plan
    simp only [hplan, List.findSome?_cons, Codec.complaint?] at h ⊢
    cases htraced : codec.unprintable? (runner.traced command kind target) with
    | some first => simp [htraced] at h
    | none =>
      simp only [htraced] at h ⊢
      rcases hprepare : prepare runner.makeCaps command kind workspace.files workspace.cache
        with ⟨stop | job, cache⟩
      · rw [hprepare] at h
        dsimp only
        rw [JobReport.ofOutcomeWith_of_taken h]
      · rw [hprepare] at h
        obtain ⟨hbuild, hreport⟩ := buildWith_of_taken h
        simp only [hbuild, hreport]

theorem outcome_executeWith_of_complaint {command : Command} {complaint : Crash}
    (h : (runner.commandTexts command workspace).findSome? codec.complaint? = some complaint) :
    (runner.executeWith codec command workspace).1.outcome = .error (.unencodable complaint) := by
  unfold commandTexts at h
  unfold executeWith
  cases hplan : command.plan with
  | error failure =>
    rw [hplan] at h
    exact JobReport.outcome_ofOutcomeWith_of_complaint h _ _
  | ok plan =>
    obtain ⟨kind, target⟩ := plan
    simp only [hplan, List.findSome?_cons, Codec.complaint?] at h ⊢
    cases htraced : codec.unprintable? (runner.traced command kind target) with
    | some first =>
      simp only [htraced, Option.some.injEq] at h
      simp only [h, JobReport.interrupted]
    | none =>
      simp only [htraced] at h ⊢
      rcases hprepare : prepare runner.makeCaps command kind workspace.files workspace.cache
        with ⟨stop | job, cache⟩
      · rw [hprepare] at h
        exact JobReport.outcome_ofOutcomeWith_of_complaint h _ _
      · rw [hprepare] at h
        exact outcome_ofOutcomeWith_buildWith h _ _

/-- A codec that takes all texts of a job makes no difference to it. -/
theorem runWith_eq_run (h : (runner.texts args workspace).findSome? codec.complaint? = none) :
    runner.runWith codec args workspace = runner.run args workspace := by
  rw [run_eq]
  unfold texts at h
  unfold runWith
  cases hargs : Command.ofArgs args with
  | error refusal =>
    have hprinted : codec.unprintable? refusal.message = none := by
      simpa [hargs, Codec.complaint?] using h
    simp only [hprinted]
  | ok command =>
    rw [hargs] at h
    exact executeWith_eq_execute h

/-- A codec that does not take some text of a job ends it with the complaint about the first one. -/
theorem outcome_runWith_of_complaint {complaint : Crash}
    (h : (runner.texts args workspace).findSome? codec.complaint? = some complaint) :
    (runner.runWith codec args workspace).1.outcome = .error (.unencodable complaint) := by
  unfold texts at h
  unfold runWith
  cases hargs : Command.ofArgs args with
  | error refusal =>
    have hprinted : codec.unprintable? refusal.message = some complaint := by
      simpa [hargs, Codec.complaint?] using h
    simp only [hprinted, JobReport.interrupted]
  | ok command =>
    rw [hargs] at h
    exact outcome_executeWith_of_complaint h

/-! ### Batches -/

/-- The texts that jobs put out one after the other, where each of them is taken. -/
def allTexts (runner : Runner β κ) : List (List String) → Workspace tc κ → List (Text tc)
  | [], _ => []
  | args :: jobs, workspace =>
    runner.texts args workspace ++ runner.allTexts jobs (runner.run args workspace).2

variable {jobs : List (List String)}

theorem batchJobWith_eq_batchJob
    (h : (runner.texts args workspace).findSome? codec.complaint? = none) :
    runner.batchJobWith codec args workspace = runner.batchJob args workspace := by
  rw [batchJobWith, runWith_eq_run h]
  rfl

/-- A codec that takes all texts of a batch makes no difference to it. -/
theorem perform_eq_of_taken
    (h : (runner.allTexts jobs workspace).findSome? codec.complaint? = none) :
    Batch.perform (runner.batchJobWith codec) jobs workspace =
      Batch.perform runner.batchJob jobs workspace := by
  induction jobs generalizing workspace with
  | nil => rfl
  | cons args jobs ih =>
    rw [allTexts, List.findSome?_append, Option.or_eq_none_iff] at h
    have hrest := ih h.2
    simp only [Batch.perform, batchJobWith_eq_batchJob h.1, batchJob_snd, hrest]

/-- The entry of a job that has a text which the codec does not take. -/
theorem outcome_ofReply_of_complaint {complaint : Crash}
    (h : (runner.texts args workspace).findSome? codec.complaint? = some complaint) :
    (Batch.Entry.ofReply args (runner.batchJobWith codec args workspace).1).outcome =
      .error (.escaped (.unencodable complaint)) := by
  rw [Batch.Entry.ofReply, batchJobWith]
  simp only [outcome_runWith_of_complaint h]
  rfl

/-- The first text of a batch that is not taken ends the batch with the job that it belongs to. The
jobs before it are run as with any codec. -/
theorem perform_of_complaint {complaint : Crash} (hmake : runner.makeCaps.Answers)
    (hpaths : ∀ args ∈ jobs, Command.PathsNonNull args)
    (h : (runner.allTexts jobs workspace).findSome? codec.complaint? = some complaint) :
    ∃ done args rest entry, jobs = done ++ args :: rest ∧
      (runner.texts args (runner.runAll done workspace).2).findSome? codec.complaint? =
        some complaint ∧
      entry.args = args ∧ entry.outcome = .error (.escaped (.unencodable complaint)) ∧
      (Batch.perform (runner.batchJobWith codec) jobs workspace).1 =
        (Batch.perform runner.batchJob done workspace).1 ++ [entry] := by
  induction jobs generalizing workspace with
  | nil => cases h
  | cons args jobs ih =>
    obtain ⟨hfirst, hrest⟩ := List.forall_mem_cons.mp hpaths
    rw [allTexts, List.findSome?_append] at h
    cases htexts : (runner.texts args workspace).findSome? codec.complaint? with
    | some first =>
      rw [htexts, Option.some_or, Option.some.injEq] at h
      subst h
      have hentry := outcome_ofReply_of_complaint htexts
      refine ⟨[], args, jobs, _, rfl, htexts, rfl, hentry, ?_⟩
      rw [Batch.perform_cons_of_error hentry]
      rfl
    | none =>
      rw [htexts, Option.none_or] at h
      obtain ⟨code, hcode⟩ := exists_code_entryIn hmake hfirst workspace
      obtain ⟨done, stopped, rest, entry, hsplit, hcomplaint, hargs, houtcome, hperform⟩ :=
        ih hrest h
      refine ⟨args :: done, stopped, rest, entry, congrArg (args :: ·) hsplit, hcomplaint, hargs,
        houtcome, ?_⟩
      have hjob := batchJobWith_eq_batchJob htexts
      have hcoded : (Batch.Entry.ofReply args (runner.batchJobWith codec args workspace).1).outcome =
          .ok code := by
        rw [hjob]
        exact hcode
      rw [Batch.perform_cons_of_ok hcoded, Batch.perform_cons_of_ok hcode, hjob, List.cons_append]
      exact congrArg (_ :: ·) hperform

end Runner

end ShaderDriver
