import ShaderDriver.Proofs.Pragma.Passes
import ShaderDriver.Proofs.Runner.Recognition

/-!
# ShaderDriver.Proofs.Runner.Course

**The courses a command can take.** A command is refused for its shape, stopped at one of the checks
that follow, or comes to its build. `Runner.Course` has one rule for each, which says everything
that is seen of the job and all that becomes of the workspace; every run takes a course
(`Runner.run_course`), so what is proved by cases over the rules needs no look into the runner.

The checks fail with an input error only (`Command.resultCode_of_plan`, `resultCode_of_prepare`),
and a command that is prepared is one whose source was read and whose settings comment was accepted
(`prepare_eq_ok`).
-/

namespace ShaderDriver

variable {β κ : Type} {tc : Toolchain β} {make : CapsFactory β κ} {command : Command}
  {kind : ProgramKind} {target : Target} {files : FileTree} {cache kept : CapsCache β κ}

/-! ### Checks that fail -/

/-- A command that is not planned has a path whose ending is not known. -/
theorem Command.category_of_plan {failure : Failure} (h : command.plan = .error failure) :
    failure.category = .input := by
  simp only [plan, bind, Except.bind, pure, Except.pure] at h
  split at h
  · rename_i hkind
    obtain rfl := Except.error.inj h
    rw [(ProgramKind.ofPath_eq_error_iff.mp hkind).1]
    rfl
  · split at h
    · rename_i htarget
      obtain rfl := Except.error.inj h
      rw [(Target.ofPath_eq_error_iff.mp htarget).1]
      rfl
    · cases h

/-- The endings of the paths are checked as part of the input. -/
theorem Command.resultCode_of_plan {failure : Failure} (h : command.plan = .error failure) :
    failure.resultCode = .inputError := by
  rw [Failure.resultCode, category_of_plan h]
  rfl

/-- A settings comment that is refused holds something that is no token. -/
theorem Pragma.detect_failed {source : Bytes} {selection after : Selection β κ} {failure : Failure}
    (h : detect make source selection = (.error (.failed failure), after)) :
    ∃ rest, failure = .unrecognizedPragma rest := by
  simp only [detect, detectWith] at h
  cases hbody : body? source with
  | none => simp [hbody] at h
  | some body =>
    simp only [hbody, settle_eq unambiguous_all] at h
    rcases hact : applyAll make (peel Token.all body).2 selection with ⟨crash | _, between⟩
    · simp [hact] at h
    · rw [hact] at h
      dsimp only at h
      split at h
      · simp at h
      · simp only [Prod.mk.injEq, Except.error.injEq, Stop.failed.injEq] at h
        exact ⟨_, h.1.symm⟩

/-- What is wrong with a source is an input error. -/
theorem resultCode_of_prepare {failure : Failure}
    (h : prepare make command kind files cache = (.error (.failed failure), kept)) :
    failure.resultCode = .inputError := by
  unfold prepare at h
  cases hread : readSource files command.input with
  | error stop =>
    rw [hread] at h
    obtain rfl : stop = .failed failure := by simpa using congrArg Prod.fst h
    unfold readSource at hread
    split at hread
    · cases hread
    · split at hread <;> cases hread
      rfl
  | ok text =>
    rw [hread] at h
    dsimp only at h
    rcases hstanding : cache.standalone make with ⟨crash | caps, standing⟩
    · simp [hstanding] at h
    · rw [hstanding] at h
      dsimp only at h
      rcases hconfigure : configure make command.honorsPragma text
        { settings := {}, caps, cache := standing } with ⟨stop | _, selection⟩
      · rw [hconfigure] at h
        obtain rfl : stop = .failed failure := by simpa using congrArg Prod.fst h
        unfold configure at hconfigure
        split at hconfigure
        · obtain ⟨rest, rfl⟩ := Pragma.detect_failed hconfigure
          rfl
        · cases hconfigure
      · simp [hconfigure] at h

/-! ### Commands that are prepared -/

/-- A command that is prepared has been read, given the standing bundle, and configured, and the job
holds what came of that. -/
theorem prepare_eq_ok {job : Job β} (h : prepare make command kind files cache = (.ok job, kept)) :
    ∃ path caps standing selection, FilePath.ofString? command.input = some path ∧
      files.read? path = some job.text ∧
      cache.standalone make = (.ok caps, standing) ∧
      configure make command.honorsPragma job.text { settings := {}, caps, cache := standing } =
        (.ok (), selection) ∧
      job = {
        kind
        text := job.text
        settings := selection.settings
        caps := selection.caps
        inputPath := command.input
        outputPath := command.output } ∧
      kept = selection.cache := by
  unfold prepare at h
  cases hread : readSource files command.input with
  | error stop => simp [hread] at h
  | ok text =>
    rw [hread] at h
    dsimp only at h
    rcases hstanding : cache.standalone make with ⟨crash | caps, standing⟩
    · simp [hstanding] at h
    · rw [hstanding] at h
      dsimp only at h
      rcases hconfigure : configure make command.honorsPragma text
        { settings := {}, caps, cache := standing } with ⟨stop | _, selection⟩
      · simp [hconfigure] at h
      · rw [hconfigure] at h
        obtain ⟨rfl, rfl⟩ : _ = job ∧ selection.cache = kept := by simpa using h
        unfold readSource at hread
        split at hread
        · cases hread
        · rename_i path hpath
          split at hread
          · cases hread
          · rename_i source hsource
            cases hread
            exact ⟨path, caps, standing, selection, hpath, hsource, rfl, hconfigure, rfl, rfl⟩

theorem outputPath_of_prepare {job : Job β}
    (h : prepare make command kind files cache = (.ok job, kept)) :
    job.outputPath = command.output := by
  obtain ⟨path, caps, standing, selection, -, -, -, -, hjob, -⟩ := prepare_eq_ok h
  rw [hjob]

/-! ### Courses -/

namespace Runner

variable (runner : Runner β κ) (args : List String) (workspace : Workspace tc κ)

/-- The course of a command: what is seen of the job, and the workspace that it leaves. -/
inductive Course : JobReport tc → Workspace tc κ → Prop
  | refused {refusal : Refusal} (hargs : Command.ofArgs args = .error refusal) :
    Course { outcome := .ok .inputError, printed := refusal.message, journal := [] } workspace
  /-- An ending is not known. -/
  | unplanned {command : Command} {failure : Failure} (hargs : Command.ofArgs args = .ok command)
    (hplan : command.plan = .error failure) :
    Course (.ofOutcome (.error (.failed failure)) [] []) workspace
  /-- The source cannot be read, or not be configured. -/
  | unprepared {command : Command} {kind : ProgramKind} {target : Target} {stop : Stop}
    {cache : CapsCache β κ} (hargs : Command.ofArgs args = .ok command)
    (hplan : command.plan = .ok (kind, target))
    (hprepare : prepare runner.makeCaps command kind workspace.files workspace.cache =
      (.error stop, cache)) :
    Course (.ofOutcome (.error stop) (runner.traced command kind target) [])
      { workspace with cache }
  | built {command : Command} {kind : ProgramKind} {target : Target} {job : Job β}
    {cache : CapsCache β κ} (hargs : Command.ofArgs args = .ok command)
    (hplan : command.plan = .ok (kind, target))
    (hprepare : prepare runner.makeCaps command kind workspace.files workspace.cache =
      (.ok job, cache)) :
    Course
      (.ofOutcome (build target job workspace.files workspace.compiler).outcome
        (runner.traced command kind target)
        (build target job workspace.files workspace.compiler).journal)
      { files := (build target job workspace.files workspace.compiler).files
        cache
        compiler := (build target job workspace.files workspace.compiler).compiler }

/-- Every run takes a course. -/
theorem run_course :
    runner.Course args workspace (runner.run args workspace).1 (runner.run args workspace).2 := by
  rw [run_eq]
  cases hargs : Command.ofArgs args with
  | error refusal => exact .refused hargs
  | ok command =>
    dsimp only
    rw [execute_eq]
    cases hplan : command.plan with
    | error failure => exact .unplanned hargs hplan
    | ok plan =>
      obtain ⟨kind, target⟩ := plan
      dsimp only
      rcases hprepare : prepare runner.makeCaps command kind workspace.files workspace.cache
        with ⟨stop | job, cache⟩
      · exact .unprepared hargs hplan hprepare
      · exact .built hargs hplan hprepare

end Runner

end ShaderDriver
