import Mathlib.Data.List.Perm.Basic
import Mathlib.Tactic.Choose
import ShaderDriver.Batch.Run

/-!
# ShaderDriver.Proofs.Batch.Perform

**What a batch says of its jobs.** The jobs that have been run are a beginning of the command line
(`args_perform_isPrefix`), each entry is what the job function answered in some state
(`exists_of_mem_perform`), and what follows an entry is the batch of the remaining jobs in the state
that the job left (`perform_of_split`). What every job keeps up, the batch does (`perform_keeps`),
and what every job makes of the state it finds, the entries of a batch do step by step
(`perform_steps`).

The verdict is success exactly if every job succeeded (`Log.verdict_eq_success_iff`), and does not
depend on the order of the jobs (`Log.verdict_of_perm`). A line printed in front of every job is seen
in what is printed and nowhere else (`perform_announced`, `Log.printed_announced`).
-/

namespace ShaderDriver

/-! ### The worse of two outcomes -/

namespace ResultCode

instance : RightCommutative worst where
  right_comm c d e := by
    apply severity_injective
    simp only [severity_worst]
    omega

theorem worst_eq_success_iff {c d : ResultCode} :
    worst c d = success ↔ c = success ∧ d = success := by
  cases c <;> cases d <;> decide

end ResultCode

namespace Batch

variable {ε δ σ : Type}

/-! ### Verdicts -/

namespace Log

/-- A batch whose jobs all have an outcome answers with the worst one. -/
theorem verdict_of_outcomes {log : Log ε δ} {codes : List ResultCode}
    (h : log.entries.map Entry.outcome = codes.map .ok) :
    log.verdict = .ok (codes.foldl ResultCode.worst .success) := by
  obtain ⟨entries⟩ := log
  simp only [verdict]
  generalize ResultCode.success = start
  induction entries generalizing start codes with
  | nil =>
    obtain rfl : codes = [] := by simpa using h.symm
    rfl
  | cons entry entries ih =>
    cases codes with
    | nil => cases h
    | cons code codes =>
      obtain ⟨hentry, hentries⟩ := List.cons.inj h
      rw [List.foldlM_cons, hentry]
      exact ih hentries (start.worst code)

/-- The order of jobs that all have an outcome makes no difference to the verdict. -/
theorem verdict_of_perm {log other : Log ε δ} (h : log.entries.Perm other.entries)
    (hcodes : ∀ entry ∈ log.entries, ∃ code, entry.outcome = .ok code) :
    ∃ code, log.verdict = .ok code ∧ other.verdict = .ok code := by
  choose! code hcode using hcodes
  have houtcomes : log.entries.map Entry.outcome = (log.entries.map code).map .ok := by
    rw [List.map_map]
    exact List.map_congr_left hcode
  have hothers : other.entries.map Entry.outcome = (other.entries.map code).map .ok := by
    rw [List.map_map]
    exact List.map_congr_left fun entry hentry => hcode entry (h.mem_iff.mpr hentry)
  refine ⟨_, verdict_of_outcomes houtcomes, ?_⟩
  rw [verdict_of_outcomes hothers]
  exact congrArg Except.ok ((h.symm.map code).foldl_eq ResultCode.success)

/-- A batch succeeds if and only if all of its jobs do. -/
theorem verdict_eq_success_iff {log : Log ε δ} :
    log.verdict = .ok .success ↔ ∀ entry ∈ log.entries, entry.outcome = .ok .success := by
  obtain ⟨entries⟩ := log
  suffices ∀ start : ResultCode,
      entries.foldlM (fun worst entry => entry.outcome.map worst.worst) start = .ok .success ↔
        start = .success ∧ ∀ entry ∈ entries, entry.outcome = .ok .success by
    simpa [verdict] using this .success
  induction entries with
  | nil =>
    intro start
    simp [pure, Except.pure]
  | cons entry entries ih =>
    intro start
    rw [List.foldlM_cons, List.forall_mem_cons]
    cases houtcome : entry.outcome with
    | error fault => simp [Except.map, bind, Except.bind]
    | ok code =>
      change entries.foldlM _ (start.worst code) = _ ↔ _
      rw [ih, ResultCode.worst_eq_success_iff, Except.ok.injEq, and_assoc]

end Log

/-! ### Entries -/

variable {job : List String → σ → Reply ε δ × σ} {jobs : List (List String)} {state : σ}

/-- A job that does not stop the batch is followed by the others. -/
theorem perform_cons_of_ok {args : List String} {code : ResultCode}
    (h : (Entry.ofReply args (job args state).1).outcome = .ok code) :
    perform job (args :: jobs) state =
      (Entry.ofReply args (job args state).1 :: (perform job jobs (job args state).2).1,
        (perform job jobs (job args state).2).2) := by
  simp only [perform, h]

/-- A job that stops the batch is the last one. -/
theorem perform_cons_of_error {args : List String} {fault : Fault ε}
    (h : (Entry.ofReply args (job args state).1).outcome = .error fault) :
    perform job (args :: jobs) state =
      ([Entry.ofReply args (job args state).1], (job args state).2) := by
  simp only [perform, h]

/-- The jobs that are run are the first on the command line. -/
theorem args_perform_isPrefix (job : List String → σ → Reply ε δ × σ) (jobs : List (List String))
    (state : σ) : (perform job jobs state).1.map Entry.args <+: jobs := by
  induction jobs generalizing state with
  | nil => exact List.prefix_rfl
  | cons args jobs ih =>
    cases houtcome : (Entry.ofReply args (job args state).1).outcome with
    | error fault =>
      rw [perform_cons_of_error houtcome]
      exact List.prefix_append [args] jobs
    | ok code =>
      rw [perform_cons_of_ok houtcome]
      exact List.cons_prefix_cons.mpr ⟨rfl, ih (job args state).2⟩

/-- A batch that is not stopped runs all jobs. -/
theorem args_perform_of_ok
    (h : ∀ entry ∈ (perform job jobs state).1, ∃ code, entry.outcome = .ok code) :
    (perform job jobs state).1.map Entry.args = jobs := by
  induction jobs generalizing state with
  | nil => rfl
  | cons args jobs ih =>
    cases houtcome : (Entry.ofReply args (job args state).1).outcome with
    | error fault =>
      rw [perform_cons_of_error houtcome] at h
      obtain ⟨code, hcode⟩ := h _ (List.mem_singleton_self _)
      rw [houtcome] at hcode
      cases hcode
    | ok code =>
      rw [perform_cons_of_ok houtcome] at h ⊢
      rw [List.map_cons, ih fun entry hentry => h entry (List.mem_cons_of_mem _ hentry)]
      rfl

/-- An entry is what the job function answered, and the entries after it are those of the remaining
jobs, in the state that it left. -/
theorem perform_of_split {before later : List (Entry ε δ)} {entry : Entry ε δ} {code : ResultCode}
    (h : (perform job jobs state).1 = before ++ entry :: later) (hcode : entry.outcome = .ok code) :
    ∃ between rest, entry = .ofReply entry.args (job entry.args between).1 ∧
      perform job rest (job entry.args between).2 = (later, (perform job jobs state).2) := by
  induction jobs generalizing state before with
  | nil => simp [perform] at h
  | cons args jobs ih =>
    cases houtcome : (Entry.ofReply args (job args state).1).outcome with
    | error fault =>
      rw [perform_cons_of_error houtcome] at h
      obtain ⟨rfl, hfirst, rfl⟩ : before = [] ∧ Entry.ofReply args (job args state).1 = entry ∧
          later = [] := by
        cases before <;> simp_all
      rw [← hfirst, houtcome] at hcode
      cases hcode
    | ok other =>
      rw [perform_cons_of_ok houtcome] at h ⊢
      cases before with
      | nil =>
        obtain ⟨rfl, rfl⟩ := List.cons.inj h
        exact ⟨state, jobs, rfl, rfl⟩
      | cons first before => exact ih (List.cons.inj h).2

/-- Every entry is what the job function answered in some state. -/
theorem exists_of_mem_perform {entry : Entry ε δ} (h : entry ∈ (perform job jobs state).1) :
    ∃ between, entry = .ofReply entry.args (job entry.args between).1 := by
  induction jobs generalizing state with
  | nil => cases h
  | cons args jobs ih =>
    cases houtcome : (Entry.ofReply args (job args state).1).outcome with
    | error fault =>
      rw [perform_cons_of_error houtcome] at h
      rw [List.mem_singleton.mp h]
      exact ⟨state, rfl⟩
    | ok code =>
      rw [perform_cons_of_ok houtcome] at h
      rcases List.mem_cons.mp h with rfl | hrest
      · exact ⟨state, rfl⟩
      · exact ih hrest

/-- What every job that is run keeps up, the batch does. -/
theorem perform_keeps {property : σ → Prop} (h : property state)
    (hkeeps : ∀ entry ∈ (perform job jobs state).1, ∀ before, property before →
      property (job entry.args before).2) : property (perform job jobs state).2 := by
  induction jobs generalizing state with
  | nil => exact h
  | cons args jobs ih =>
    cases houtcome : (Entry.ofReply args (job args state).1).outcome with
    | error fault =>
      rw [perform_cons_of_error houtcome] at hkeeps ⊢
      exact hkeeps _ (List.mem_singleton_self _) state h
    | ok code =>
      rw [perform_cons_of_ok houtcome] at hkeeps ⊢
      exact ih (hkeeps _ List.mem_cons_self state h) fun entry hentry =>
        hkeeps entry (List.mem_cons_of_mem _ hentry)

/-! ### Jobs as steps -/

/-- Jobs that have been run one after the other, each a step from the state that the one before it
has left. -/
inductive Steps (step : Entry ε δ → σ → σ → Prop) : List (Entry ε δ) → σ → σ → Prop
  | nil (state : σ) : Steps step [] state state
  | cons {entry : Entry ε δ} {entries : List (Entry ε δ)} {before between after : σ}
    (hstep : step entry before between) (hsteps : Steps step entries between after) :
    Steps step (entry :: entries) before after

/-- The jobs of a batch are the steps that single jobs are. -/
theorem perform_steps {step : Entry ε δ → σ → σ → Prop}
    (h : ∀ args ∈ jobs, ∀ state, step (.ofReply args (job args state).1) state (job args state).2) :
    Steps step (perform job jobs state).1 state (perform job jobs state).2 := by
  induction jobs generalizing state with
  | nil => exact .nil state
  | cons args jobs ih =>
    obtain ⟨hfirst, hrest⟩ := List.forall_mem_cons.mp h
    cases houtcome : (Entry.ofReply args (job args state).1).outcome with
    | error fault =>
      rw [perform_cons_of_error houtcome]
      exact .cons (hfirst state) (.nil _)
    | ok code =>
      rw [perform_cons_of_ok houtcome]
      exact .cons (hfirst state) (ih hrest)

/-- What steps make of a part of the state, if they look at no other part. -/
theorem Steps.project {τ : Type} {part : σ → τ} {step : Entry ε δ → τ → τ → Prop}
    {entries : List (Entry ε δ)} {before after : σ}
    (h : Steps (fun entry before after => step entry (part before) (part after)) entries before
      after) : Steps step entries (part before) (part after) := by
  induction h with
  | nil state => exact .nil (part state)
  | cons hstep _ ih => exact .cons hstep ih

theorem Steps.mono {step weaker : Entry ε δ → σ → σ → Prop} {entries : List (Entry ε δ)}
    {before after : σ} (h : Steps step entries before after)
    (hweaker : ∀ entry before after, step entry before after → weaker entry before after) :
    Steps weaker entries before after := by
  induction h with
  | nil state => exact .nil state
  | cons hstep _ ih => exact .cons (hweaker _ _ _ hstep) ih

/-- What every step shows of its entry, all entries show. -/
theorem Steps.forall_mem {step : Entry ε δ → σ → σ → Prop} {property : Entry ε δ → Prop}
    {entries : List (Entry ε δ)} {before after : σ} (h : Steps step entries before after)
    (hstep : ∀ entry before after, step entry before after → property entry) :
    ∀ entry ∈ entries, property entry := by
  induction h with
  | nil => exact nofun
  | cons hfirst _ ih => exact List.forall_mem_cons.mpr ⟨hstep _ _ _ hfirst, ih⟩

/-! ### What is printed in front of jobs -/

/-- An entry, with a line in front of what was printed. -/
def Entry.announced (line : List String → Bytes) (entry : Entry ε δ) : Entry ε δ :=
  { entry with printed := line entry.args ++ entry.printed }

/-- The line that traces the outcome of a job, if it has one. -/
def Entry.resultLine (entry : Entry ε δ) : Bytes :=
  match entry.outcome with
  | .ok code => entry.traceLine code
  | .error _ => []

theorem Entry.resultLine_of_ok {entry : Entry ε δ} {code : ResultCode}
    (h : entry.outcome = .ok code) : entry.resultLine = entry.traceLine code := by
  rw [resultLine, h]

theorem Entry.resultLine_of_error {entry : Entry ε δ} {fault : Fault ε}
    (h : entry.outcome = .error fault) : entry.resultLine = [] := by
  rw [resultLine, h]

/-- With traces, the outcome of a job is printed behind what the job has printed. -/
theorem Entry.transcript_traced (entry : Entry ε δ) :
    entry.transcript true = entry.printed ++ entry.resultLine := by
  unfold transcript resultLine
  cases entry.outcome with
  | ok code => rfl
  | error fault => exact (List.append_nil entry.printed).symm

/-- A job function that prints a line in front of every job runs the same jobs, with the same
outcomes and to the same state. -/
theorem perform_announced {other : List String → σ → Reply ε δ × σ} {line : List String → Bytes}
    (h : ∀ args state, other args state =
      ({ (job args state).1 with printed := line args ++ (job args state).1.printed },
        (job args state).2)) :
    perform other jobs state =
      ((perform job jobs state).1.map (Entry.announced line), (perform job jobs state).2) := by
  induction jobs generalizing state with
  | nil => rfl
  | cons args jobs ih =>
    have hentry : Entry.ofReply args (other args state).1 =
        (Entry.ofReply args (job args state).1).announced line := by
      rw [h]
      rfl
    have hstate : (other args state).2 = (job args state).2 := by rw [h]
    cases houtcome : (Entry.ofReply args (job args state).1).outcome with
    | error fault =>
      rw [perform_cons_of_error houtcome,
        perform_cons_of_error ((congrArg Entry.outcome hentry).trans houtcome), hentry, hstate]
      rfl
    | ok code =>
      rw [perform_cons_of_ok houtcome,
        perform_cons_of_ok ((congrArg Entry.outcome hentry).trans houtcome), hentry, hstate, ih]
      rfl

namespace Log

/-- A log, with a line in front of what every job has printed. -/
def announced (line : List String → Bytes) (log : Log ε δ) : Log ε δ where
  entries := log.entries.map (Entry.announced line)

theorem verdict_announced (line : List String → Bytes) (log : Log ε δ) :
    (log.announced line).verdict = log.verdict := by
  rw [verdict, announced, List.foldlM_map]
  rfl

/-- What a log prints without traces is what its jobs have printed. -/
theorem printed_untraced (log : Log ε δ) :
    log.printed false = log.entries.flatMap Entry.printed := rfl

/-- What a log prints with traces: line, output and outcome, job by job. -/
theorem printed_announced (line : List String → Bytes) (log : Log ε δ) :
    (log.announced line).printed true =
      log.entries.flatMap fun entry => line entry.args ++ entry.printed ++ entry.resultLine := by
  rw [printed, announced, List.flatMap_map]
  refine congrArg List.flatten (List.map_congr_left fun entry _ => ?_)
  rw [Entry.transcript_traced]
  rfl

end Log

end Batch

end ShaderDriver
