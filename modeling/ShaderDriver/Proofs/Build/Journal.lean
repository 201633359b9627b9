import ShaderDriver.Proofs.Build.Artifact

/-!
# ShaderDriver.Proofs.Build.Journal

**What a build asks of the compiler.** Every call is entered in the journal with what it is given.
`Event.Suits` says that this is what the job and its target call for; each turn enters only events
that do (`Turn.goesOn`), and so do the closing of the output and its diagnostic. The compiler is
created in the first turn and in no other, hence once in every build whose output opens
(`journal_build`); code is compiled in the turn after that, unless the creation breaks down
(`compile_mem_journal_build`).
-/

namespace ShaderDriver

variable {β : Type} {tc : Toolchain β} {target : Target} {job : Job β}

namespace Event

/-- Whether an event is the creation of a compiler. -/
def isCreate : Event tc → Bool
  | create _ _ => true
  | _ => false

/-- What an event hands to the compiler is what the job and its target call for. -/
def Suits (target : Target) (job : Job β) : Event tc → Prop
  | create caps permit => caps = job.caps ∧ permit = target.permitsInvalidStaticTests
  | compile kind text settings => kind = job.kind ∧ text = job.text ∧ settings = job.settings
  | emit language baseName => baseName = language.baseName? job.inputPath
  | loadModule kind path => kind = job.kind ∧ path = job.inputPath
  | _ => True

end Event

/-! ### Journals that go on -/

namespace Bench

/-- The journal of a bench goes on, with events that suit the job; the compiler is created that many
times among them. -/
def GoesOn (target : Target) (job : Job β) (creations : Nat) (bench after : Bench tc) : Prop :=
  ∃ events, after.journal = bench.journal ++ events ∧
    (∀ event ∈ events, event.Suits target job) ∧ events.countP Event.isCreate = creations

variable {bench between after : Bench tc}

namespace GoesOn

theorem same (h : after.journal = bench.journal) : bench.GoesOn target job 0 after :=
  ⟨[], by simp [h], nofun, rfl⟩

theorem trans {first last : Nat} (hfirst : bench.GoesOn target job first between)
    (hlast : between.GoesOn target job last after) :
    bench.GoesOn target job (first + last) after := by
  obtain ⟨events, hevents, hsuits, hcount⟩ := hfirst
  obtain ⟨more, hmore, hsuits', hcount'⟩ := hlast
  refine ⟨events ++ more, by rw [hmore, hevents, List.append_assoc], ?_, ?_⟩
  · intro event hevent
    rcases List.mem_append.mp hevent with hevent | hevent
    · exact hsuits event hevent
    · exact hsuits' event hevent
  · rw [List.countP_append, hcount, hcount']

theorem note {event : Event tc} (h : event.Suits target job) (bench : Bench tc) :
    bench.GoesOn target job event.isCreate.toNat (bench.note event) := by
  refine ⟨[event], rfl, by simpa using h, ?_⟩
  cases hcreate : event.isCreate <;> simp [hcreate]

theorem called {event : Event tc} (h : event.Suits target job) (s : tc.State) (bench : Bench tc) :
    bench.GoesOn target job event.isCreate.toNat (bench.called event s) :=
  note h bench

theorem closeOut (bench : Bench tc) : bench.GoesOn target job 0 bench.closeOut.2 := by
  unfold Bench.closeOut
  dsimp only
  split
  · exact ⟨[.released _], rfl, by simp [Event.Suits], rfl⟩
  · exact same rfl

theorem openOut (path : FilePath) (bench : Bench tc) :
    bench.GoesOn target job 0 (bench.openOut path) := by
  unfold Bench.openOut
  dsimp only
  split
  · exact ⟨[.opened _], rfl, by simp [Event.Suits], rfl⟩
  · exact same rfl

theorem writeDiagnostic (path : FilePath) (diagnostic : Bytes) (bench : Bench tc) :
    bench.GoesOn target job 0 (bench.writeDiagnostic path diagnostic) :=
  -- What is written here is no part of the artifact and is not entered.
  ((closeOut bench).trans (openOut path bench.closeOut.2)).trans
    (closeOut (((bench.closeOut.2.openOut path).write failureBanner).write diagnostic))

end GoesOn

end Bench

/-! ### Turns -/

/-- Whether the compiler has yet to be created. -/
def Phase.isFirst : Phase tc → Bool
  | .create => true
  | _ => false

/-- A turn enters what suits the job, and a creation exactly if it is the first turn. -/
theorem Turn.goesOn {phase mid : Phase tc} {bench between : Bench tc}
    (h : Turn target job phase bench mid between) :
    bench.GoesOn target job phase.isFirst.toNat between ∧ mid.isFirst = false := by
  cases h with
  | created =>
    refine ⟨.called ?_ _ bench, ?_⟩
    · exact ⟨rfl, rfl⟩
    · cases target <;> rfl
  | compiled =>
    -- Two events at once: the call that answers, and the emission that begins.
    refine ⟨(Bench.GoesOn.called ?_ _ bench).trans (.note ?_ _), rfl⟩
    · exact ⟨rfl, rfl, rfl⟩
    · exact rfl
  | close =>
    refine ⟨(Bench.GoesOn.closeOut bench).trans (.note ?_ _), rfl⟩
    exact trivial
  | emitBreaks | emitFails | emitted | marginBreaks => exact ⟨.same rfl, rfl⟩
  | compileBreaks | compileRejects =>
    refine ⟨.called ?_ _ bench, rfl⟩
    exact ⟨rfl, rfl, rfl⟩
  | createBreaks | loadBreaks | loadRejects | loaded =>
    refine ⟨.called ?_ _ bench, rfl⟩
    exact ⟨rfl, rfl⟩
  | _ =>
    refine ⟨.note ?_ _, rfl⟩
    exact trivial

theorem Turns.goesOn {phase last : Phase tc} {bench after : Bench tc}
    (h : Turns target job phase bench last after) (hphase : phase.isFirst = false) :
    bench.GoesOn target job 0 after := by
  induction h with
  | refl => exact .same rfl
  | head hturn _ ih =>
    obtain ⟨hfirst, hmid⟩ := hturn.goesOn
    rw [hphase] at hfirst
    exact hfirst.trans (ih hmid)

/-- The compiler is created once. -/
theorem Conduct.goesOn {bench after : Bench tc} {ending : Ending}
    (h : Conduct target job bench ending after) : bench.GoesOn target job 1 after := by
  cases h with
  | head hturn hrest =>
    obtain ⟨hfirst, hmid⟩ := hturn.goesOn
    exact hfirst.trans (hrest.goesOn hmid)

/-- Code is compiled, unless there is no compiler. -/
theorem Conduct.compile_mem {language : CodeTarget} {bench after : Bench tc} {ending : Ending}
    (h : Conduct (.code language) job bench ending after)
    (hcreate : ((tc.create job.caps language.isCpp).answerIn bench.compiler).1 = .ok ()) :
    .compile job.kind job.text job.settings ∈ after.journal := by
  cases h with
  | head hturn hrest =>
    cases hturn with
    | createBreaks hbreaks =>
      exact absurd (hcreate.symm.trans (congrArg Prod.fst hbreaks)) nofun
    | created =>
      cases hrest with
      | head hturn hrest =>
        have hentered := hturn.goesOn.2
        obtain ⟨events, hjournal, -⟩ := hrest.goesOn hentered
        rw [hjournal]
        cases hturn <;> simp [Bench.called, Bench.note]

/-! ### Whole builds -/

variable {files : FileTree} {compiler : tc.State} {path : FilePath} {sink : Sink}

/-- The journal of a build whose output opens starts with that, goes on with what the compiler does,
and ends with files opened and closed. -/
theorem exists_journal_build (target : Target) (compiler : tc.State)
    (hopens : job.OpensOn files path sink) :
    ∃ ending after, Conduct target (job.adjustedTo target) (.opened path files compiler) ending after ∧
      ∃ finished : Bench tc, (build target job files compiler).journal = finished.journal ∧
        after.GoesOn target (job.adjustedTo target) 0 finished := by
  obtain ⟨ending, hconduct, -⟩ :=
    exists_conduct target (job.adjustedTo target) (Bench.opened path files compiler : Bench tc)
  refine ⟨ending, _, hconduct, ?_⟩
  rw [build_eq hopens hconduct]
  cases ending.diagnostic? with
  | some diagnostic => exact ⟨_, rfl, .writeDiagnostic path diagnostic _⟩
  | none => exact ⟨_, rfl, .closeOut _⟩

/-- A build whose output opens creates the compiler once, and asks of it what the job calls for. -/
theorem journal_build (target : Target) (compiler : tc.State)
    (hopens : job.OpensOn files path sink) :
    (build target job files compiler).journal.countP Event.isCreate = 1 ∧
      ∀ event ∈ (build target job files compiler).journal,
        event.Suits target (job.adjustedTo target) := by
  obtain ⟨ending, after, hconduct, finished, hjournal, hfinished⟩ :=
    exists_journal_build target compiler hopens
  obtain ⟨events, hevents, hsuits, hcount⟩ := hconduct.goesOn.trans hfinished
  rw [hjournal, hevents]
  refine ⟨?_, ?_⟩
  · rw [List.countP_append, hcount]
    rfl
  · intro event hevent
    rcases List.mem_append.mp hevent with hevent | hevent
    · obtain rfl := List.mem_singleton.mp hevent
      trivial
    · exact hsuits event hevent

/-- A build of code compiles the program, unless the creation of the compiler breaks down. -/
theorem compile_mem_journal_build {language : CodeTarget} (hopens : job.OpensOn files path sink)
    (hcreate : ((tc.create job.caps language.isCpp).answerIn compiler).1 = .ok ()) :
    .compile job.kind job.text ((Target.code language).adjust job.settings) ∈
      (build (.code language) job files compiler).journal := by
  obtain ⟨ending, after, hconduct, finished, hjournal, events, hevents, -⟩ :=
    exists_journal_build (.code language) compiler hopens
  have hcompiled := hconduct.compile_mem hcreate
  rw [hjournal, hevents]
  exact List.mem_append_left events hcompiled

end ShaderDriver
