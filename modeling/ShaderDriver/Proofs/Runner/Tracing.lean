import ShaderDriver.Proofs.Runner.Recognition

/-!
# ShaderDriver.Proofs.Runner.Tracing

**What tracing adds to a job.** A runner that traces prints one line in front of what a job prints,
and it prints it exactly if the argument list is recognized (`Command.announcement_eq`,
`Command.announcement_eq_nil`). Nothing else depends on whether a runner traces: neither the outcome
of the job, nor what it does to the outside, nor the workspace that it leaves
(`Runner.run_eq_announced`).
-/

namespace ShaderDriver

variable {β κ : Type} {tc : Toolchain β}

/-! ### The line in front of a job -/

namespace Command

/-- The line that announces the job in an argument list; none if the list is not recognized. -/
def announcement (args : List String) : Bytes :=
  match ofArgs args with
  | .error _ => []
  | .ok command =>
    match command.plan with
    | .error _ => []
    | .ok (kind, target) => command.traceLine kind target

theorem announcement_eq {args : List String} {command : Command} {kind : ProgramKind}
    {target : Target} (h : Recognizes args command kind target) :
    announcement args = command.traceLine kind target := by
  obtain ⟨hargs, hplan⟩ := recognizes_iff.mp h
  simp only [announcement, hargs, hplan]

theorem announcement_eq_nil {args : List String}
    (h : ∀ command kind target, ¬ Recognizes args command kind target) :
    announcement args = [] := by
  unfold announcement
  split
  · rfl
  · rename_i command hargs
    split
    · rfl
    · rename_i kind target hplan
      exact absurd (recognizes_iff.mpr ⟨hargs, hplan⟩) (h command kind target)

end Command

/-- A report, with a line in front of what was printed. -/
def JobReport.announced (line : Bytes) (report : JobReport tc) : JobReport tc :=
  { report with printed := line ++ report.printed }

/-- What a job prints first stands in front of its report and changes nothing else. -/
theorem JobReport.ofOutcome_eq_announced (outcome : Except Stop Unit) (line : Bytes)
    (journal : List (Event tc)) :
    ofOutcome outcome line journal = (ofOutcome outcome [] journal).announced line := by
  rcases outcome with (failure | escape) | _ <;> simp [ofOutcome, announced]

namespace Runner

/-- The line that a runner prints in front of a job. -/
def lead (runner : Runner β κ) (args : List String) : Bytes :=
  if runner.debug then Command.announcement args else []

theorem lead_of_debug {runner : Runner β κ} (h : runner.debug = true) :
    runner.lead = Command.announcement := by
  funext args
  rw [lead, if_pos h]

/-- Tracing changes nothing but what is printed in front of a job. -/
theorem run_eq_announced (runner : Runner β κ) (args : List String) (workspace : Workspace tc κ) :
    runner.run args workspace =
      ((({ makeCaps := runner.makeCaps } : Runner β κ).run args workspace).1.announced
          (runner.lead args),
        (({ makeCaps := runner.makeCaps } : Runner β κ).run args workspace).2) := by
  rw [run_eq, run_eq]
  unfold lead Command.announcement
  cases Command.ofArgs args with
  | error refusal => simp only [ite_self, JobReport.announced, List.nil_append]
  | ok command =>
    dsimp only
    rw [execute_eq, execute_eq]
    cases command.plan with
    | error failure => simp only [ite_self, JobReport.announced, List.nil_append]
    | ok plan =>
      obtain ⟨kind, target⟩ := plan
      dsimp only
      rcases prepare runner.makeCaps command kind workspace.files workspace.cache
        with ⟨stop | job, cache⟩
      · exact Prod.ext (JobReport.ofOutcome_eq_announced _ _ _) rfl
      · exact Prod.ext (JobReport.ofOutcome_eq_announced _ _ _) rfl

end Runner

end ShaderDriver
