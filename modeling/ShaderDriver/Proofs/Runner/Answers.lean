import ShaderDriver.Proofs.Build.Delivery
import ShaderDriver.Proofs.Runner.Course
import ShaderDriver.Proofs.Runner.Isolation

/-!
# ShaderDriver.Proofs.Runner.Answers

**Jobs that end without a result code.** Where every text can be encoded, only two things can do
that: a path that holds U+0000, and a factory of capability bundles that breaks down. With a factory
that does not, and paths that hold no U+0000, every command ends in a result code
(`Runner.run_answers`), whatever the compiler does.
-/

namespace ShaderDriver

variable {β κ : Type} {tc : Toolchain β} {make : CapsFactory β κ}

/-- The factory does not break down; it may answer without a bundle. -/
def CapsFactory.Answers (make : CapsFactory β κ) : Prop :=
  ∀ name state, ∃ made, (make name state).1 = .ok made

theorem CapsFactory.answers_named : named.Answers := fun name _ => ⟨some ⟨name⟩, rfl⟩

theorem CapsFactory.GivesByName.answers {bundle : String → Option β}
    (hmake : make.GivesByName bundle) : make.Answers :=
  fun name state => ⟨bundle name, hmake name state⟩

/-- No path of the command in an argument list holds U+0000. -/
def Command.PathsNonNull (args : List String) : Prop :=
  ∀ command, ofArgs args = .ok command →
    '\x00' ∉ command.input.toList ∧ '\x00' ∉ command.output.toList

section Answers

variable (hmake : make.Answers)

include hmake

theorem CapsCache.get_answers (cache : CapsCache β κ) (name : String) :
    ∃ made kept, cache.get make name = (.ok made, kept) := by
  cases hfind : cache.find? name with
  | some bundle => exact ⟨some bundle, cache, get_of_find? hfind⟩
  | none =>
    obtain ⟨made, hmade⟩ := hmake name cache.factory
    rcases hresult : make name cache.factory with ⟨answer, factory⟩
    rw [hresult] at hmade
    subst hmade
    simp [get, hfind, hresult]

namespace Pragma

theorem Token.apply_answers (token : Token) (selection : Selection β κ) :
    ∃ after, token.apply make selection = (.ok (), after) := by
  cases token with
  | tweak change => exact ⟨_, rfl⟩
  | caps name =>
    obtain ⟨made, kept, hget⟩ := CapsCache.get_answers hmake selection.cache name
    exact ⟨_, by rw [Token.apply, hget]⟩

theorem applyAll_answers (tokens : List Token) (selection : Selection β κ) :
    ∃ after, applyAll make tokens selection = (.ok (), after) := by
  induction tokens with
  | nil => exact ⟨selection, rfl⟩
  | cons token tokens ih =>
    obtain ⟨between, hrest⟩ := ih
    rw [applyAll, hrest]
    exact token.apply_answers hmake between

/-- What is answered to a settings comment depends on its body alone. -/
theorem detect_fst (source : Bytes) (selection : Selection β κ) :
    (detect make source selection).1 =
      match body? source with
      | none => .ok ()
      | some body =>
        if (peel Token.all body).1 = [] then .ok ()
        else .error (.failed (.unrecognizedPragma (peel Token.all body).1)) := by
  simp only [detect, detectWith]
  cases body? source with
  | none => rfl
  | some body =>
    obtain ⟨after, hact⟩ := applyAll_answers hmake (peel Token.all body).2 selection
    simp only [settle_eq unambiguous_all, hact]
    split <;> rfl

end Pragma

/-- A settings comment is accepted or refused, or it is ignored. -/
theorem configure_answers (honorsPragma : Bool) (source : Bytes)
    (selection : Pragma.Selection β κ) (escape : Escape) :
    (configure make honorsPragma source selection).1 ≠ .error (.escaped escape) := by
  unfold configure
  split
  · rw [Pragma.detect_fst hmake]
    split
    · simp
    · split <;> simp
  · simp

/-- The preparation of a command escapes exactly if its input path holds U+0000. -/
theorem prepare_escapes_iff {command : Command} {kind : ProgramKind} {files : FileTree}
    {cache : CapsCache β κ} {escape : Escape} :
    (prepare make command kind files cache).1 = .error (.escaped escape) ↔
      escape = .nullInPath ∧ '\x00' ∈ command.input.toList := by
  unfold prepare readSource
  cases hpath : FilePath.ofString? command.input with
  | none => simp [FilePath.ofString?_eq_none_iff.mp hpath, eq_comm]
  | some path =>
    have hnull : '\x00' ∉ command.input.toList :=
      mt FilePath.ofString?_eq_none_iff.mpr (by simp [hpath])
    simp only [hnull, and_false, iff_false]
    cases files.read? path with
    | none => simp
    | some text =>
      obtain ⟨caps, standing, hstanding⟩ :=
        CapsCache.get_answers hmake cache CapsCache.standaloneName
      simp only [CapsCache.standalone, hstanding]
      have hconfigured := configure_answers hmake command.honorsPragma text
        { settings := {}, caps, cache := standing } escape
      rcases hconfigure : configure make command.honorsPragma text
          { settings := {}, caps, cache := standing } with ⟨stop | _, selection⟩
      · rw [hconfigure] at hconfigured
        intro hstop
        exact hconfigured (congrArg Except.error (Except.error.inj hstop))
      · simp

end Answers

/-- A build escapes exactly if its output path holds U+0000. -/
theorem build_escapes_iff {target : Target} {job : Job β} {files : FileTree} {compiler : tc.State}
    {escape : Escape} :
    (build target job files compiler).outcome = .error (.escaped escape) ↔
      escape = .nullInPath ∧ '\x00' ∈ job.outputPath.toList := by
  constructor
  · intro hescape
    have hfails : (build target job files compiler).outcome ≠ .ok () := by simp [hescape]
    obtain ⟨diagnostic, hother⟩ | hother | ⟨hother, hnull⟩ :=
      build_error target job files compiler hfails
    · simp [hescape] at hother
    · simp [hescape] at hother
    · simp only [hescape, Except.error.injEq, Stop.escaped.injEq] at hother
      exact ⟨hother, hnull⟩
  · rintro ⟨rfl, hnull⟩
    have hopens : ∀ path sink, ¬ job.OpensOn files path sink := by
      rintro path sink ⟨hpath, -⟩
      simp [FilePath.ofString?_eq_none_iff.mpr hnull] at hpath
    rw [outcome_build_of_not_opens hopens, if_pos hnull]

/-- A report is without a result code exactly if what it is of has escaped. -/
theorem outcome_ofOutcome_eq_error_iff {outcome : Except Stop Unit} {traced : Bytes}
    {journal : List (Event tc)} {escape : Escape} :
    (JobReport.ofOutcome outcome traced journal).outcome = .error escape ↔
      outcome = .error (.escaped escape) := by
  rcases outcome with (failure | other) | _ <;> simp [JobReport.ofOutcome]

namespace Runner

variable {runner : Runner β κ} {args : List String} {workspace after : Workspace tc κ}
  {report : JobReport tc}

theorem Course.answers (h : runner.Course args workspace report after)
    (hmake : runner.makeCaps.Answers) (hpaths : Command.PathsNonNull args) :
    ∃ code, report.outcome = .ok code := by
  cases houtcome : report.outcome with
  | ok code => exact ⟨code, rfl⟩
  | error escape =>
    exfalso
    cases h with
    | refused => cases houtcome
    | unplanned => cases houtcome
    | unprepared hargs _ hprepare =>
      obtain rfl := Except.error.inj (outcome_ofOutcome_eq_error_iff.mp houtcome)
      exact (hpaths _ hargs).1 ((prepare_escapes_iff hmake).mp (congrArg Prod.fst hprepare)).2
    | built hargs _ hprepare =>
      have hnull := (build_escapes_iff.mp (outcome_ofOutcome_eq_error_iff.mp houtcome)).2
      rw [outputPath_of_prepare hprepare] at hnull
      exact (hpaths _ hargs).2 hnull

/-- **Every command ends in a result code**, if the factory does not break down and no path holds
U+0000. -/
theorem run_answers (hmake : runner.makeCaps.Answers) {args : List String}
    (hpaths : Command.PathsNonNull args) (workspace : Workspace tc κ) :
    ∃ code, (runner.run args workspace).1.outcome = .ok code :=
  (runner.run_course args workspace).answers hmake hpaths

end Runner

end ShaderDriver
