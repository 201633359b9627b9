import ShaderDriver.Proofs.Build.Protocol
import ShaderDriver.Proofs.Runner.Course

/-!
# ShaderDriver.Proofs.Runner.Engagement

**What a job has to do with its compiler.** A journal only says what was entered in it. A job
`Engages` its compiler if the journal is borne out by the compiler itself: the command prepares a
job, the output of that job opens, and from there the compiler is conducted to an ending by its own
answers. The calls in the journal are then exchanges that occur and that the protocol allows, and
what it has as written is what the compiler has written.

A job whose journal is not empty engages its compiler (`Course.engages`).
-/

namespace ShaderDriver

variable {β κ : Type} {tc : Toolchain β}

@[simp] theorem journal_ofOutcome (outcome : Except Stop Unit) (traced : Bytes)
    (journal : List (Event tc)) : (JobReport.ofOutcome outcome traced journal).journal = journal := by
  rcases outcome with (_ | _) | _ <;> rfl

/-- A report of success prints nothing but the trace. -/
theorem ok_of_outcome_ofOutcome {outcome : Except Stop Unit} {traced : Bytes}
    {journal : List (Event tc)}
    (h : (JobReport.ofOutcome outcome traced journal).outcome = .ok .success) :
    outcome = .ok () ∧ (JobReport.ofOutcome outcome traced journal).printed = traced := by
  rcases outcome with (failure | escape) | _
  · exact absurd (Except.ok.inj h) failure.resultCode_ne_success
  · cases h
  · exact ⟨rfl, rfl⟩

namespace Runner

/-- The command in an argument list engages the compiler of a workspace, with this journal: what the
compiler is given and answers are the exchanges, and they come to the ending. -/
structure Engages (runner : Runner β κ) (args : List String) (workspace : Workspace tc κ)
    (journal : List (Event tc)) (target : Target) (job : Job β) (exchanges : List (Exchange tc))
    (ending : Ending) : Prop where
  /-- The job is the one that the command prepares. -/
  prepared : ∃ command kind kept, Command.ofArgs args = .ok command ∧
    command.plan = .ok (kind, target) ∧
    prepare runner.makeCaps command kind workspace.files workspace.cache = (.ok job, kept)
  /-- Once its output is open, the compiler is conducted to the ending. -/
  conducted : ∃ path sink after last, job.OpensOn workspace.files path sink ∧
    Conduct target (job.adjustedTo target) (.opened path workspace.files workspace.compiler) ending
      after ∧
    Exchanges (.opened path workspace.files workspace.compiler) exchanges last ∧
    written journal = written after.journal
  protocol : Protocol target (job.adjustedTo target) exchanges
  calls_eq : calls journal = exchanges.map Exchange.call

variable {runner : Runner β κ} {args : List String} {workspace after : Workspace tc κ}
  {report : JobReport tc}

/-- A call that is among the exchanges is in the journal. -/
theorem Engages.mem_journal {journal : List (Event tc)} {target : Target} {job : Job β}
    {exchanges : List (Exchange tc)} {ending : Ending}
    (h : Engages runner args workspace journal target job exchanges ending) {exchange : Exchange tc}
    (hexchange : exchange ∈ exchanges) : exchange.call ∈ journal := by
  have hcall : exchange.call ∈ calls journal := by
    rw [h.calls_eq]
    exact List.mem_map_of_mem hexchange
  exact (List.mem_filter.mp hcall).1

/-- A job that has entered anything in its journal has come to its build, and the output was
opened. -/
theorem Course.built_of_mem {event : Event tc} (h : runner.Course args workspace report after)
    (hevent : event ∈ report.journal) :
    ∃ command kind target job path sink, Command.ofArgs args = .ok command ∧
      command.plan = .ok (kind, target) ∧
      prepare runner.makeCaps command kind workspace.files workspace.cache =
        (.ok job, after.cache) ∧
      job.OpensOn workspace.files path sink ∧
      report = .ofOutcome (build target job workspace.files workspace.compiler).outcome
        (runner.traced command kind target)
        (build target job workspace.files workspace.compiler).journal := by
  cases h with
  | refused => cases hevent
  | unplanned => cases hevent
  | unprepared =>
    rw [journal_ofOutcome] at hevent
    cases hevent
  | @built command kind target job cache hargs hplan hprepare =>
    rw [journal_ofOutcome] at hevent
    obtain hopens | ⟨path, sink, -, -, hopens, -⟩ :=
      opens_cases target job workspace.files workspace.compiler
    · rw [build_of_not_opens hopens] at hevent
      cases hevent
    · exact ⟨command, kind, target, job, path, sink, hargs, hplan, hprepare, hopens, rfl⟩

/-- A job that has entered anything in its journal engages its compiler. It succeeds only if there
is an artifact. -/
theorem Course.engages {event : Event tc} (h : runner.Course args workspace report after)
    (hevent : event ∈ report.journal) :
    ∃ target job exchanges ending,
      Engages runner args workspace report.journal target job exchanges ending ∧
      (report.outcome = .ok .success → ending = .produced) := by
  obtain ⟨command, kind, target, job, path, sink, hargs, hplan, hprepare, hopens, hreport⟩ :=
    h.built_of_mem hevent
  obtain ⟨ending, hconduct, -⟩ := exists_conduct target (job.adjustedTo target)
    (Bench.opened path workspace.files workspace.compiler : Bench tc)
  obtain ⟨exchanges, last, hexchanges, hprotocol, hcalls⟩ := hconduct.exchanges
  rw [hreport, journal_ofOutcome]
  refine ⟨target, job, exchanges, ending, ⟨?_, ?_, hprotocol, ?_⟩, fun hsuccess => ?_⟩
  · exact ⟨command, kind, after.cache, hargs, hplan, hprepare⟩
  · exact ⟨path, sink, _, last, hopens, hconduct, hexchanges, written_build hopens hconduct⟩
  · rw [calls_build hopens hconduct, hcalls, hexchanges.calls_eq]
    rfl
  · have hok := (ok_of_outcome_ofOutcome hsuccess).1
    rw [build_eq hopens hconduct] at hok
    cases ending with
    | produced => rfl
    | rejected diagnostics => cases hok
    | brokeDown crash => cases hok

end Runner

end ShaderDriver
