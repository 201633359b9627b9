import ShaderDriver.Proofs.Build.Footprint
import ShaderDriver.Proofs.Runner.Engagement

/-!
# ShaderDriver.Proofs.Runner.Footprint

**What a job leaves behind.** Opening the output empties it, so it matters that nothing can be wrong
with a command after that but what the compiler or the output makes of it. Either nothing has
happened (the job was stopped by a check, or its output did not open), or the output is open, the
compiler is created once, and only the file that the output path denotes can change
(`Runner.Course.untouched_or_opened`).
-/

namespace ShaderDriver

variable {β κ : Type} {tc : Toolchain β}

/-- The location of the file that the input path in an argument list denotes. -/
def Command.inputOf? (args : List String) : Option Location :=
  match ofArgs args with
  | .error _ => none
  | .ok command => Location.ofPath? command.input

/-- The location of the file that the output path in an argument list denotes. -/
def Command.outputOf? (args : List String) : Option Location :=
  match ofArgs args with
  | .error _ => none
  | .ok command => Location.ofPath? command.output

/-- The output path in an argument list can be opened for writing. -/
def Command.OutputOpens (args : List String) (files : FileTree) : Prop :=
  ∃ command path sink, ofArgs args = .ok command ∧
    FilePath.ofString? command.output = some path ∧
    (OutputStream.openPath path files).1.sink = some sink

theorem Command.outputOf?_of_ofArgs {args : List String} {command : Command}
    (h : ofArgs args = .ok command) : outputOf? args = Location.ofPath? command.output := by
  simp only [outputOf?, h]

/-- The output of a prepared job opens exactly if the output path of its command does. -/
theorem outputOpens_iff {args : List String} {command : Command} {job : Job β} (files : FileTree)
    (hargs : Command.ofArgs args = .ok command) (hpath : job.outputPath = command.output) :
    Command.OutputOpens args files ↔ ∃ path sink, job.OpensOn files path sink := by
  constructor
  · rintro ⟨other, path, sink, hother, hpath', hsink⟩
    obtain rfl : command = other := Except.ok.inj (hargs.symm.trans hother)
    exact ⟨path, sink, hpath ▸ hpath', hsink⟩
  · rintro ⟨path, sink, hpath', hsink⟩
    exact ⟨command, path, sink, hargs, hpath ▸ hpath', hsink⟩

namespace Runner

variable {runner : Runner β κ} {args : List String} {workspace after : Workspace tc κ}
  {report : JobReport tc}

/-- What is known of a job that has been stopped before anything happened. -/
structure Untouched (args : List String) (workspace : Workspace tc κ) (report : JobReport tc)
    (after : Workspace tc κ) : Prop where
  files : after.files = workspace.files
  compiler : after.compiler = workspace.compiler
  journal : report.journal = []
  outcome : report.outcome = .ok .inputError ∨ (∃ escape, report.outcome = .error escape) ∨
    (report.outcome = .ok .outputError ∧ ¬ Command.OutputOpens args workspace.files)

/-- What is known of a job whose output has been opened. -/
structure Opened (runner : Runner β κ) (args : List String) (workspace : Workspace tc κ)
    (report : JobReport tc) (after : Workspace tc κ) : Prop where
  opens : Command.OutputOpens args workspace.files
  creations : report.journal.countP Event.isCreate = 1
  engages : ∃ target job exchanges ending,
    Engages runner args workspace report.journal target job exchanges ending
  node? : ∀ location, Command.outputOf? args ≠ some location →
    after.files.node? location = workspace.files.node? location
  isDirectory : after.files.isDirectory = workspace.files.isDirectory
  outcome : report.outcome = .ok .success ∨ report.outcome = .ok .compileError ∨
    report.outcome = .ok .outputError

/-- A job is stopped before anything happens, or its output is opened. -/
theorem Course.untouched_or_opened (h : runner.Course args workspace report after) :
    Untouched args workspace report after ∨ Opened runner args workspace report after := by
  have hengages := @h.engages
  cases h with
  | refused hargs => exact .inl ⟨rfl, rfl, rfl, .inl rfl⟩
  | unplanned hargs hplan =>
    have hcode := Command.resultCode_of_plan hplan
    exact .inl ⟨rfl, rfl, rfl, .inl (congrArg Except.ok hcode)⟩
  | @unprepared _ _ _ stop _ hargs hplan hprepare =>
    cases stop with
    | failed failure =>
      have hcode := resultCode_of_prepare hprepare
      exact .inl ⟨rfl, rfl, rfl, .inl (congrArg Except.ok hcode)⟩
    | escaped escape => exact .inl ⟨rfl, rfl, rfl, .inr (.inl ⟨escape, rfl⟩)⟩
  | @built command kind target job cache hargs hplan hprepare =>
    have hpath := outputPath_of_prepare hprepare
    have hopens_iff := outputOpens_iff workspace.files hargs hpath
    obtain hopens | ⟨path, sink, -, -, hopens, -⟩ :=
      opens_cases target job workspace.files workspace.compiler
    · -- The output does not open, or its path holds U+0000.
      rw [build_of_not_opens hopens]
      refine .inl ⟨rfl, rfl, ?_, ?_⟩
      · split <;> rfl
      · split
        · exact .inr (.inl ⟨_, rfl⟩)
        · refine .inr (.inr ⟨rfl, ?_⟩)
          rw [hopens_iff]
          rintro ⟨path, sink, h⟩
          exact hopens path sink h
    · obtain ⟨hcreations, -⟩ := journal_build target workspace.compiler hopens
      refine .inr ⟨hopens_iff.mpr ⟨path, sink, hopens⟩, ?_, ?_, ?_, ?_, ?_⟩
      · rw [journal_ofOutcome]
        exact hcreations
      · obtain ⟨event, hevent, -⟩ := List.countP_pos_iff.mp (hcreations.symm ▸ Nat.one_pos)
        obtain ⟨target, job, exchanges, ending, h, -⟩ :=
          @hengages event (by rwa [journal_ofOutcome])
        exact ⟨target, job, exchanges, ending, h⟩
      · intro location hne
        rw [Command.outputOf?_of_ofArgs hargs, ← hpath] at hne
        exact node?_build target job workspace.files workspace.compiler hne
      · exact isDirectory_build target job workspace.files workspace.compiler
      · obtain hok | ⟨diagnostic, hfailed⟩ | hunwritable :=
          outcome_build_of_opens target workspace.compiler hopens
        · rw [hok]
          exact .inl rfl
        · rw [hfailed]
          exact .inr (.inl rfl)
        · rw [hunwritable]
          exact .inr (.inr rfl)

/-- A job leaves every location alone but that of its output. -/
theorem node?_run (runner : Runner β κ) (workspace : Workspace tc κ) {location : Location}
    (hne : Command.outputOf? args ≠ some location) :
    (runner.run args workspace).2.files.node? location = workspace.files.node? location := by
  obtain hnothing | hopened := (runner.run_course args workspace).untouched_or_opened
  · rw [hnothing.files]
  · exact hopened.node? location hne

/-- A job makes and removes no directory. -/
theorem isDirectory_run (runner : Runner β κ) (args : List String) (workspace : Workspace tc κ) :
    (runner.run args workspace).2.files.isDirectory = workspace.files.isDirectory := by
  obtain hnothing | hopened := (runner.run_course args workspace).untouched_or_opened
  · rw [hnothing.files]
  · exact hopened.isDirectory

/-- **Refused jobs leave no trace, and a job touches only its output.** A job that ends in an input
error, or without a result code, or in an output error because its output does not open, has changed
no file and created no compiler. Any other job has created one compiler, which answers for its
journal, and changed no file but that of its output. So a job that has created a compiler does not
end in an input error. -/
theorem run_untouched_or_contained (runner : Runner β κ) (args : List String)
    (workspace : Workspace tc κ) :
    ((runner.run args workspace).1.outcome = .ok .inputError ∨
        (∃ escape, (runner.run args workspace).1.outcome = .error escape) ∨
        ((runner.run args workspace).1.outcome = .ok .outputError ∧
          ¬ Command.OutputOpens args workspace.files) →
      (runner.run args workspace).2.files = workspace.files ∧
        (runner.run args workspace).2.compiler = workspace.compiler ∧
        (runner.run args workspace).1.journal = []) ∧
    ((runner.run args workspace).1.outcome = .ok .success ∨
        (runner.run args workspace).1.outcome = .ok .compileError ∨
        ((runner.run args workspace).1.outcome = .ok .outputError ∧
          Command.OutputOpens args workspace.files) →
      (runner.run args workspace).1.journal.countP Event.isCreate = 1 ∧
        (∃ target job exchanges ending,
          Engages runner args workspace (runner.run args workspace).1.journal target job exchanges
            ending) ∧
        ∀ location, Command.outputOf? args ≠ some location →
          (runner.run args workspace).2.files.node? location =
            workspace.files.node? location) ∧
    ((∃ event ∈ (runner.run args workspace).1.journal, event.isCreate = true) →
      (runner.run args workspace).1.outcome ≠ .ok .inputError) := by
  obtain hnothing | hopened := (runner.run_course args workspace).untouched_or_opened
  · refine ⟨fun _ => ⟨hnothing.files, hnothing.compiler, hnothing.journal⟩, ?_, ?_⟩
    · intro hdone
      exfalso
      obtain hcode | ⟨escape, hescape⟩ | ⟨hcode, hclosed⟩ := hnothing.outcome
      · simp [hcode] at hdone
      · simp [hescape] at hdone
      · simp [hcode, hclosed] at hdone
    · rintro ⟨event, hevent, -⟩
      simp [hnothing.journal] at hevent
  · have hopens := hopened.opens
    refine ⟨?_, fun _ => ⟨hopened.creations, hopened.engages, hopened.node?⟩, fun _ hcode => ?_⟩
    · intro hstopped
      exfalso
      obtain hcode | hcode | hcode := hopened.outcome <;> simp [hcode, hopens] at hstopped
    · obtain hother | hother | hother := hopened.outcome <;> simp [hcode] at hother

/-- A source whose settings comment is refused, beside an artifact of an earlier job. -/
def refusedBesideArtifact : FileTree :=
  (FileTree.put {} ["refused.frag"] (.regular (utf8 "/*#pragma settings Nonsense Default*/"))).put
    ["a.glsl"] (.regular (utf8 "an artifact"))

theorem run_untouched_or_contained_refused :
    let runner : Runner Caps Unit := { makeCaps := .named }
    let workspace : Workspace (.verbatim Caps) Unit :=
      { files := refusedBesideArtifact, cache := { factory := () }, compiler := () }
    (runner.run ["skslc", "refused.frag", "a.glsl"] workspace).1.outcome = .ok .inputError ∧
      (runner.run ["skslc", "refused.frag", "a.glsl"] workspace).2.files =
        refusedBesideArtifact := by
  intro runner workspace
  have hcode : (runner.run ["skslc", "refused.frag", "a.glsl"] workspace).1.outcome =
      .ok .inputError := by decide +kernel
  obtain ⟨huntouched, -⟩ :=
    run_untouched_or_contained runner ["skslc", "refused.frag", "a.glsl"] workspace
  exact ⟨hcode, (huntouched (.inl hcode)).1⟩

end Runner

end ShaderDriver
