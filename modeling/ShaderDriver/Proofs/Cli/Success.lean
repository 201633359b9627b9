import ShaderDriver.Proofs.Batch.Jobs

/-!
# ShaderDriver.Proofs.Cli.Success

**What a successful command line guarantees.** The program succeeds exactly if every job does, each
on the files that those before it have left, and it makes no difference that they share a cache.
A job that succeeds has written its output in full (`Runner.run_of_success`). Later jobs may write
the same file again, or read it, but they leave it alone unless it is their output; so in the end a
file holds what the last job that writes it has written.
-/

namespace ShaderDriver

variable {β κ : Type} {tc : Toolchain β}

/-! ### Single jobs -/

namespace Runner

variable {runner : Runner β κ} {args : List String} {workspace after : Workspace tc κ}
  {report : JobReport tc}

/-- Tracing changes nothing but what is printed. -/
theorem run_untraced (runner : Runner β κ) (args : List String) (workspace : Workspace tc κ) :
    (runner.run args workspace).1.outcome =
        (({ makeCaps := runner.makeCaps } : Runner β κ).run args workspace).1.outcome ∧
      (runner.run args workspace).2 =
        (({ makeCaps := runner.makeCaps } : Runner β κ).run args workspace).2 := by
  rw [runner.run_eq_announced]
  exact ⟨rfl, rfl⟩

/-- What is known of a job that has succeeded. -/
structure Delivered (runner : Runner β κ) (args : List String) (report : JobReport tc)
    (after : Workspace tc κ) : Prop where
  creations : report.journal.countP Event.isCreate = 1
  printed : runner.debug = false → report.printed = []
  /-- The output holds what was written, unless it is a full device. -/
  node? : ∀ location, Command.outputOf? args = some location →
    after.files.node? location = some .full ∨
      after.files.node? location = some (.regular (written report.journal).flatten)

theorem Course.delivered (h : runner.Course args workspace report after)
    (hsuccess : report.outcome = .ok .success) : Delivered runner args report after := by
  cases h with
  | refused => cases hsuccess
  | unplanned => cases (ok_of_outcome_ofOutcome hsuccess).1
  | unprepared => cases (ok_of_outcome_ofOutcome hsuccess).1
  | @built command kind target job cache hargs hplan hprepare =>
    obtain ⟨hok, hprinted⟩ := ok_of_outcome_ofOutcome hsuccess
    obtain ⟨path, sink, bench, hopens, hconduct⟩ := produced_of_build_ok hok
    obtain ⟨houtcome, hwritten, hfiles⟩ := build_of_produced hopens hconduct
    have hopen : emitterClosed bench.journal = false := by
      rw [houtcome] at hok
      split at hok
      · rename_i hdelivers
        exact hdelivers.1
      · cases hok
    refine ⟨?_, ?_, ?_⟩
    · rw [journal_ofOutcome]
      exact (journal_build target workspace.compiler hopens).1
    · intro hdebug
      rw [hprinted, traced, hdebug]
      rfl
    · intro location hlocation
      rw [Command.outputOf?_of_ofArgs hargs, ← outputPath_of_prepare hprepare,
        ← hopens.text_eq] at hlocation
      rw [journal_ofOutcome, hwritten, hfiles hopen]
      cases sink with
      | full => exact .inl (OutputStream.full_of_openPath hopens.2 hlocation)
      | file place =>
        have hplace := (OutputStream.denotes_of_openPath hopens.2).1
        obtain rfl : place = location := Option.some.inj (hplace.symm.trans hlocation)
        exact .inr (FileTree.node?_put_self workspace.files place _)

/-! ### Batches -/

variable {jobs : List (List String)}

/-- All jobs that a batch runs succeed exactly if all commands do, run one after the other without
a trace. -/
theorem perform_success_iff (runner : Runner β κ) (jobs : List (List String))
    (workspace : Workspace tc κ) :
    (∀ entry ∈ (Batch.perform runner.batchJob jobs workspace).1, entry.outcome = .ok .success) ↔
      ∀ step ∈ (Runner.runAll { makeCaps := runner.makeCaps } jobs workspace).1,
        step.1.outcome = .ok .success := by
  induction jobs generalizing workspace with
  | nil => simp [Batch.perform, runAll]
  | cons args jobs ih =>
    obtain ⟨houtcome, hafter⟩ := runner.run_untraced args workspace
    rw [runAll, List.forall_mem_cons, ← houtcome, ← hafter, ← ih]
    cases hentry : (runner.entryIn workspace args).outcome with
    | error fault =>
      -- The jobs that are kept from running do not matter, since this one has not succeeded.
      have hfails : (runner.run args workspace).1.outcome ≠ .ok .success := by
        rw [Ne, ← outcome_entryIn_eq_ok_iff, hentry]
        simp
      rw [Batch.perform_cons_of_error hentry]
      refine ⟨fun h => ?_, fun h => absurd h.1 hfails⟩
      exact absurd (h _ (List.mem_singleton_self _))
        (mt outcome_entryIn_eq_ok_iff.mp hfails)
    | ok code =>
      rw [Batch.perform_cons_of_ok hentry, List.forall_mem_cons]
      exact and_congr_left fun _ => outcome_entryIn_eq_ok_iff

/-- The jobs of a batch that have succeeded have delivered. -/
theorem delivered_of_mem {entry : Batch.Entry Escape (List (Event tc))}
    (hentry : entry ∈ (Batch.perform runner.batchJob jobs workspace).1)
    (hsuccess : entry.outcome = .ok .success) :
    entry.detail.countP Event.isCreate = 1 ∧ (runner.debug = false → entry.printed = []) := by
  obtain ⟨-, between, hentry⟩ := exists_entryIn_of_mem hentry
  rw [hentry, outcome_entryIn_eq_ok_iff] at hsuccess
  have hdelivered := (runner.run_course entry.args between).delivered hsuccess
  rw [hentry]
  exact ⟨hdelivered.creations, hdelivered.printed⟩

/-- A file finally holds what the last job has written that writes it. -/
theorem node?_perform_of_last {before later : List (Batch.Entry Escape (List (Event tc)))}
    {entry : Batch.Entry Escape (List (Event tc))} {location : Location}
    (hsplit : (Batch.perform runner.batchJob jobs workspace).1 = before ++ entry :: later)
    (hsuccess : entry.outcome = .ok .success)
    (hlocation : Command.outputOf? entry.args = some location)
    (hlater : ∀ other ∈ later, Command.outputOf? other.args ≠ some location) :
    (Batch.perform runner.batchJob jobs workspace).2.files.node? location = some .full ∨
      (Batch.perform runner.batchJob jobs workspace).2.files.node? location =
        some (.regular (written entry.detail).flatten) := by
  obtain ⟨between, rest, hentry, hrest⟩ := Batch.perform_of_split hsplit hsuccess
  have hdetail : entry.detail = (runner.run entry.args between).1.journal :=
    congrArg Batch.Entry.detail hentry
  have hran : (runner.run entry.args between).1.outcome = .ok .success :=
    outcome_entryIn_eq_ok_iff.mp ((congrArg Batch.Entry.outcome hentry).symm.trans hsuccess)
  have hkept : (Batch.perform runner.batchJob jobs workspace).2.files.node? location =
      (runner.run entry.args between).2.files.node? location := by
    have hframe := @node?_perform_of_entries _ _ _ runner rest
      (runner.run entry.args between).2 location
    rw [batchJob_snd] at hrest
    rw [hrest] at hframe
    exact hframe hlater
  rw [hkept, hdetail]
  exact ((runner.run_course entry.args between).delivered hran).node? location hlocation

/-- The jobs of a batch are run one after the other. One that has succeeded has engaged the compiler
that it has found, up to an artifact. -/
theorem perform_engages (runner : Runner β κ) (jobs : List (List String))
    (workspace : Workspace tc κ) :
    Batch.Steps (fun entry before next => next = (runner.run entry.args before).2 ∧
        (entry.outcome = .ok .success → ∃ target job exchanges,
          Engages runner entry.args before entry.detail target job exchanges .produced))
      (Batch.perform runner.batchJob jobs workspace).1 workspace
      (Batch.perform runner.batchJob jobs workspace).2 := by
  refine Batch.perform_steps fun args _ before => ⟨rfl, fun hsuccess => ?_⟩
  have hran : (runner.run args before).1.outcome = .ok .success :=
    outcome_entryIn_eq_ok_iff.mp hsuccess
  have hcourse := runner.run_course args before
  have hcreations := (hcourse.delivered hran).creations
  obtain ⟨event, hevent, -⟩ := List.countP_pos_iff.mp (hcreations.symm ▸ Nat.one_pos)
  obtain ⟨target, job, exchanges, ending, hengages, hproduced⟩ := hcourse.engages hevent
  obtain rfl := hproduced hran
  exact ⟨target, job, exchanges, hengages⟩

/-- A batch that succeeds has run all jobs. -/
theorem args_runBatch_of_success {argv : List String}
    (h : (runner.runBatch argv workspace).1.verdict = .ok .success) :
    (runner.runBatch argv workspace).1.entries.map Batch.Entry.args = Batch.split argv :=
  Batch.args_perform_of_ok fun entry hentry =>
    ⟨_, Batch.Log.verdict_eq_success_iff.mp h entry hentry⟩

/-- A batch that succeeds has created one compiler for each job. -/
theorem creations_runBatch_of_success {argv : List String}
    (h : (runner.runBatch argv workspace).1.verdict = .ok .success) :
    ((runner.runBatch argv workspace).1.entries.flatMap Batch.Entry.detail).countP Event.isCreate =
      (Batch.split argv).length := by
  have hones := List.map_congr_left fun entry hentry =>
    (delivered_of_mem hentry (Batch.Log.verdict_eq_success_iff.mp h entry hentry)).1
  rw [List.countP_flatMap, ← args_runBatch_of_success h, List.length_map]
  refine (congrArg List.sum hones).trans ?_
  simp [runBatch_eq, Batch.run]

/-- A batch succeeds exactly if all commands do when they are processed by themselves. -/
theorem verdict_runBatch_eq_success_iff {bundle : String → Option β} (runner : Runner β κ)
    (hmake : runner.makeCaps.GivesByName bundle) (argv : List String)
    {workspace : Workspace tc κ} (hfaithful : workspace.cache.Faithful bundle) (factory : κ) :
    (runner.runBatch argv workspace).1.verdict = .ok .success ↔
      ∀ step ∈ processEach runner.makeCaps ((Batch.split argv).map (·, factory))
        workspace.files workspace.compiler, step.1.outcome = .ok .success := by
  have hsteps := (@runAll_of_faithful β κ tc _ _ hmake
    ((Batch.split argv).map (·, factory)) workspace hfaithful).1
  rw [List.map_map, Function.comp_def, List.map_id'] at hsteps
  rw [Batch.Log.verdict_eq_success_iff, ← hsteps]
  exact perform_success_iff runner (Batch.split argv) workspace

end Runner

/-- Among entries of which one writes a file, there is a last one that does. -/
theorem exists_last_writer {ε δ : Type} {entries : List (Batch.Entry ε δ)} {location : Location}
    (h : ∃ entry ∈ entries, Command.outputOf? entry.args = some location) :
    ∃ before entry later, entries = before ++ entry :: later ∧
      Command.outputOf? entry.args = some location ∧
      ∀ other ∈ later, Command.outputOf? other.args ≠ some location := by
  induction entries with
  | nil =>
    obtain ⟨entry, hentry, -⟩ := h
    cases hentry
  | cons entry entries ih =>
    by_cases hlater : ∃ other ∈ entries, Command.outputOf? other.args = some location
    · obtain ⟨before, last, later, hsplit, hlast⟩ := ih hlater
      exact ⟨entry :: before, last, later, congrArg (entry :: ·) hsplit, hlast⟩
    · obtain ⟨writer, hwriter, hlocation⟩ := h
      have hspared : ∀ other ∈ entries, Command.outputOf? other.args ≠ some location :=
        fun other hother houtput => hlater ⟨other, hother, houtput⟩
      rcases List.mem_cons.mp hwriter with rfl | hrest
      · exact ⟨[], writer, entries, rfl, hlocation, hspared⟩
      · exact absurd hlocation (hspared writer hrest)

/-! ### The whole program -/

namespace Cli

variable {φ : Type}

/-- In an environment that can be used, the jobs on the command line are run as one batch. -/
theorem run_of_load (compilers : Compilers φ) (argv : List String)
    {environment : Config.Environment} (files : FileTree) {options : Config.Options φ}
    (hoptions : Config.load compilers.modules environment = .ok options) :
    run compilers argv environment files =
      .completed options
        (({ makeCaps := .named, debug := options.debug } : Runner Caps Unit).runBatch argv
          { files, cache := { factory := () }, compiler := compilers.startOf options.factory }).1
        (({ makeCaps := .named, debug := options.debug } : Runner Caps Unit).runBatch argv
          { files, cache := { factory := () }
            compiler := compilers.startOf options.factory }).2.files := by
  simp only [run, runWith, hoptions]
  rfl

/-- **What a successful command line guarantees.** The program succeeds exactly if every job on the
command line succeeds when it is processed by itself, on the files that those before it have left.
Then all jobs have been run, each has created one compiler, nothing is printed unless jobs are
traced, and every file that is the output of a job holds what was written by the last job whose
output it is. Whatever the outcome, a file that is no job's output is as it was before, and every job
that has succeeded has engaged the compiler that the jobs before it have left, up to an artifact. -/
theorem run_guarantees (compilers : Compilers φ) (argv : List String)
    (environment : Config.Environment) (files : FileTree) {options : Config.Options φ}
    (hoptions : Config.load compilers.modules environment = .ok options) :
    ∃ log after, run compilers argv environment files = .completed options log after ∧
      ((∀ arg ∈ argv, '\x00' ∉ arg.toList) → ∃ code, log.verdict = .ok code) ∧
      (log.verdict = .ok .success ↔
        ∀ step ∈ processEach .named ((Batch.split argv).map (·, ())) files
          (compilers.startOf options.factory), step.1.outcome = .ok .success) ∧
      (log.verdict = .ok .success →
        log.entries.map Batch.Entry.args = Batch.split argv ∧
        (∀ args ∈ Batch.split argv, ∀ location ∈ Command.outputOf? args,
          ∃ before entry later, log.entries = before ++ entry :: later ∧
            Command.outputOf? entry.args = some location ∧
            (∀ other ∈ later, Command.outputOf? other.args ≠ some location) ∧
            (after.node? location = some .full ∨
              after.node? location = some (.regular (written entry.detail).flatten))) ∧
        (options.debug = false → log.printed options.debug = []) ∧
        (log.entries.flatMap Batch.Entry.detail).countP Event.isCreate =
          (Batch.split argv).length) ∧
      (∀ location, (∀ args ∈ Batch.split argv, Command.outputOf? args ≠ some location) →
        after.node? location = files.node? location) ∧
      ∃ last : Workspace (compilers.toolchainOf options.factory) Unit, last.files = after ∧
        Batch.Steps (fun entry before next =>
            next = (Runner.run { makeCaps := .named, debug := options.debug } entry.args before).2 ∧
            (entry.outcome = .ok .success → ∃ target job exchanges,
              Runner.Engages { makeCaps := .named, debug := options.debug } entry.args before
                entry.detail target job exchanges .produced))
          log.entries
          { files, cache := { factory := () }, compiler := compilers.startOf options.factory }
          last := by
  have hnamed : CapsFactory.named.GivesByName fun name => some ⟨name⟩ := fun _ _ => rfl
  refine ⟨_, _, run_of_load compilers argv files hoptions, ?_, ?_, ?_, ?_,
    _, rfl, Runner.perform_engages _ (Batch.split argv) _⟩
  · intro hargv
    exact Runner.exists_verdict CapsFactory.answers_named
      (fun args hargs => Command.pathsNonNull_of_mem_split hargv hargs) _
  · exact Runner.verdict_runBatch_eq_success_iff _ hnamed argv (CapsCache.faithful_empty ()) ()
  · intro hverdict
    have hsuccess := Batch.Log.verdict_eq_success_iff.mp hverdict
    have hargs := Runner.args_runBatch_of_success hverdict
    refine ⟨hargs, ?_, ?_, Runner.creations_runBatch_of_success hverdict⟩
    · intro args hmem location hlocation
      rw [← hargs] at hmem
      obtain ⟨writer, hwriter, rfl⟩ := List.mem_map.mp hmem
      obtain ⟨before, entry, later, hsplit, houtput, hlater⟩ :=
        exists_last_writer ⟨writer, hwriter, hlocation⟩
      have hentry : entry ∈ before ++ entry :: later := by simp
      rw [← hsplit] at hentry
      exact ⟨before, entry, later, hsplit, houtput, hlater,
        Runner.node?_perform_of_last hsplit (hsuccess entry hentry) houtput hlater⟩
    · intro hdebug
      refine List.flatMap_eq_nil_iff.mpr fun entry hentry => ?_
      rw [hdebug]
      exact (Runner.delivered_of_mem hentry (hsuccess entry hentry)).2 hdebug
  · intro location hspared
    exact Runner.node?_perform hspared

/-- A module of which one attribute makes the compiler for which every source text is a program. -/
def verbatimCompilers : Compilers Unit where
  modules := [{
    name := "shaders"
    isPackage := false
    attributes := [("verbatim", .object (some ()) [])] }]
  toolchain _ := .verbatim Caps
  start _ := ()

theorem run_guarantees_verbatim :
    ∃ log after, run verbatimCompilers
        ["skslc", "plain.frag", "a.cpp", "--", "--", "refused.frag", "a.cpp", "--nosettings"]
        [("SKSLC_COMPILER", "shaders:verbatim")] refusedAndPlain =
        .completed { factory := some (), debug := false } log after ∧
      log.verdict = .ok .success ∧
      log.entries.map Batch.Entry.args =
        [["skslc", "plain.frag", "a.cpp"], ["skslc", "refused.frag", "a.cpp", "--nosettings"]] ∧
      after.node? ["plain.frag"] = refusedAndPlain.node? ["plain.frag"] := by
  have hoptions : Config.load verbatimCompilers.modules
      [("SKSLC_COMPILER", "shaders:verbatim")] = .ok { factory := some (), debug := false } := rfl
  obtain ⟨log, after, hrun, -, hiff, hguarantees, hframe, -⟩ := run_guarantees verbatimCompilers
    ["skslc", "plain.frag", "a.cpp", "--", "--", "refused.frag", "a.cpp", "--nosettings"]
    [("SKSLC_COMPILER", "shaders:verbatim")] refusedAndPlain hoptions
  have hsuccess : log.verdict = .ok .success := hiff.mpr (by decide +kernel)
  refine ⟨log, after, hrun, hsuccess, (hguarantees hsuccess).1, hframe _ (by decide +kernel)⟩

end Cli

end ShaderDriver
