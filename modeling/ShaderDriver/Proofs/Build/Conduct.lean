import ShaderDriver.Build

/-!
# ShaderDriver.Proofs.Build.Conduct

**The compiler's part of a build, turn by turn.** Once the output is open, the compiler is created
and called, and it operates its stream. `Turn` is the small-step relation of this part, with one
rule for every way in which a call can end: it answers, or it rejects what it was given, or it
breaks down. A configuration is a *phase*, which is the call that comes next with what it needs of
earlier answers, and a bench. No rule mentions what becomes of the output in the end.

`Conduct` is a whole run of turns, up to its `Ending`. Every build is one (`exists_conduct`), and no
other than the one that is found (`Conduct.diagnose_eq`), so whatever is proved over the rules holds
of every compiler.
-/

namespace ShaderDriver

variable {β : Type} {tc : Toolchain β}

/-! ### Phases and endings -/

/-- How the compiler's part of a build ends. -/
inductive Ending where
  /-- There is an artifact. -/
  | produced
  /-- Something was rejected, and these are the compiler's diagnostics. -/
  | rejected (diagnostics : Bytes)
  /-- A collaborator broke down. -/
  | brokeDown (crash : Crash)
deriving DecidableEq, Repr

/-- The diagnostic of a build that ends without an artifact: the diagnostics of the compiler, or the
complaint of the collaborator that broke down, on a line of its own. -/
def Ending.diagnostic? : Ending → Option Bytes
  | produced => none
  | rejected diagnostics => some diagnostics
  | brokeDown crash => some (crash.message ++ [newline])

/-- Where the compiler's part of a build stands. -/
inductive Phase (tc : Toolchain β) where
  | create
  | compile (language : CodeTarget)
  /-- The emitter has yet to do this with its stream. -/
  | emit (emission : Emission tc.State)
  | load
  | makeDehydrator (symbols : tc.Symbols) (elements : tc.Elements)
  | writeSymbols (symbols : tc.Symbols) (elements : tc.Elements)
  | writeElements (elements : tc.Elements)
  | finish
  /-- The bytes of a module have yet to be laid out as text. -/
  | layOut (data : Bytes)
  /-- Something was rejected, and the compiler is asked why. -/
  | complain
  | ended (ending : Ending)

/-- The phase after the compiler has been created. -/
def Target.firstPhase : Target → Phase tc
  | code language => .compile language
  | dehydrated => .load

namespace Phase

/-- The phase that follows a step: it depends on the answer, unless the step breaks down. -/
def after {α : Type} (next : α → Phase tc) : Except Crash α → Phase tc
  | .ok answer => next answer
  | .error crash => .ended (.brokeDown crash)

/-- The phase that follows when the artifact is there, or is not. -/
def decided : Bool → Phase tc
  | true => .ended .produced
  | false => .complain

end Phase

/-- What a call comes to in a state of the compiler: its answer, and the state it leaves. -/
def Call.answerIn {σ α : Type} (call : Call σ α) (state : σ) : Except Crash α × σ := call state

/-- The margins in front of that many bytes. -/
def Toolchain.margins (tc : Toolchain β) (size : Nat) : Call tc.State (List Bytes) :=
  (List.range size).mapM tc.marginAt

namespace Bench

/-- The bench after a call that has left the compiler in a state. -/
def called (event : Event tc) (compiler : tc.State) (bench : Bench tc) : Bench tc :=
  { bench.note event with compiler }

/-- The bench after something was written to the artifact. -/
def wrote (data : Bytes) (bench : Bench tc) : Bench tc := (bench.note (.wrote data)).write data

end Bench

/-! ### Turns -/

section Turn

variable (target : Target) (job : Job β)

/-- One turn of the compiler. -/
inductive Turn : Phase tc → Bench tc → Phase tc → Bench tc → Prop
  | createBreaks {bench : Bench tc} {crash : Crash} {s : tc.State} :
    (tc.create job.caps target.permitsInvalidStaticTests).answerIn bench.compiler =
      (.error crash, s) →
    Turn .create bench (.ended (.brokeDown crash))
      (bench.called (.create job.caps target.permitsInvalidStaticTests) s)
  | created {bench : Bench tc} {s : tc.State} :
    (tc.create job.caps target.permitsInvalidStaticTests).answerIn bench.compiler =
      (.ok (), s) →
    Turn .create bench target.firstPhase
      (bench.called (.create job.caps target.permitsInvalidStaticTests) s)
  | compileBreaks {language : CodeTarget} {bench : Bench tc} {crash : Crash} {s : tc.State} :
    (tc.compile job.kind job.text job.settings).answerIn bench.compiler = (.error crash, s) →
    Turn (.compile language) bench (.ended (.brokeDown crash))
      (bench.called (.compile job.kind job.text job.settings) s)
  /-- There is no program. -/
  | compileRejects {language : CodeTarget} {bench : Bench tc} {s : tc.State} :
    (tc.compile job.kind job.text job.settings).answerIn bench.compiler = (.ok none, s) →
    Turn (.compile language) bench .complain
      (bench.called (.compile job.kind job.text job.settings) s)
  | compiled {language : CodeTarget} {bench : Bench tc} {program : tc.Program} {s : tc.State} :
    (tc.compile job.kind job.text job.settings).answerIn bench.compiler =
      (.ok (some program), s) →
    Turn (.compile language) bench
      (.emit (tc.emit language program (language.baseName? job.inputPath) s))
      ((bench.called (.compile job.kind job.text job.settings) s).note
        (.emit language (language.baseName? job.inputPath)))
  | write {data : Bytes} {next : Emission tc.State} {bench : Bench tc} :
    Turn (.emit (.write data next)) bench (.emit next) (bench.wrote data)
  | close {next : Bool → Emission tc.State} {bench : Bench tc} :
    Turn (.emit (.close next)) bench (.emit (next bench.closeOut.1))
      (bench.closeOut.2.note (.closed bench.closeOut.1))
  | probe {next : Bool → Emission tc.State} {bench : Bench tc} :
    Turn (.emit (.probe next)) bench (.emit (next bench.out.isValid))
      (bench.note (.probed bench.out.isValid))
  | emitBreaks {crash : Crash} {s : tc.State} {bench : Bench tc} :
    Turn (.emit (.finish (.error crash) s)) bench (.ended (.brokeDown crash))
      { bench with compiler := s }
  /-- The emitter answers that it has failed. -/
  | emitFails {s : tc.State} {bench : Bench tc} :
    Turn (.emit (.finish (.ok false) s)) bench .complain { bench with compiler := s }
  | emitted {s : tc.State} {bench : Bench tc} :
    Turn (.emit (.finish (.ok true) s)) bench (.ended .produced) { bench with compiler := s }
  | loadBreaks {bench : Bench tc} {crash : Crash} {s : tc.State} :
    (tc.loadModule job.kind job.inputPath).answerIn bench.compiler = (.error crash, s) →
    Turn .load bench (.ended (.brokeDown crash))
      (bench.called (.loadModule job.kind job.inputPath) s)
  /-- There is no module. -/
  | loadRejects {bench : Bench tc} {s : tc.State} :
    (tc.loadModule job.kind job.inputPath).answerIn bench.compiler = (.ok none, s) →
    Turn .load bench .complain (bench.called (.loadModule job.kind job.inputPath) s)
  | loaded {bench : Bench tc} {symbols : tc.Symbols} {elements : tc.Elements} {s : tc.State} :
    (tc.loadModule job.kind job.inputPath).answerIn bench.compiler =
      (.ok (some (symbols, elements)), s) →
    Turn .load bench (.makeDehydrator symbols elements)
      (bench.called (.loadModule job.kind job.inputPath) s)
  | makeBreaks {symbols : tc.Symbols} {elements : tc.Elements} {bench : Bench tc} {crash : Crash}
      {s : tc.State} :
    tc.makeDehydrator.answerIn bench.compiler = (.error crash, s) →
    Turn (.makeDehydrator symbols elements) bench (.ended (.brokeDown crash))
      (bench.called .makeDehydrator s)
  | made {symbols : tc.Symbols} {elements : tc.Elements} {bench : Bench tc} {s : tc.State} :
    tc.makeDehydrator.answerIn bench.compiler = (.ok (), s) →
    Turn (.makeDehydrator symbols elements) bench (.writeSymbols symbols elements)
      (bench.called .makeDehydrator s)
  | symbolsBreak {symbols : tc.Symbols} {elements : tc.Elements} {bench : Bench tc}
      {crash : Crash} {s : tc.State} :
    (tc.writeSymbols symbols).answerIn bench.compiler = (.error crash, s) →
    Turn (.writeSymbols symbols elements) bench (.ended (.brokeDown crash))
      (bench.called (.writeSymbols symbols) s)
  | symbolsWritten {symbols : tc.Symbols} {elements : tc.Elements} {bench : Bench tc}
      {s : tc.State} :
    (tc.writeSymbols symbols).answerIn bench.compiler = (.ok (), s) →
    Turn (.writeSymbols symbols elements) bench (.writeElements elements)
      (bench.called (.writeSymbols symbols) s)
  | elementsBreak {elements : tc.Elements} {bench : Bench tc} {crash : Crash} {s : tc.State} :
    (tc.writeElements elements).answerIn bench.compiler = (.error crash, s) →
    Turn (.writeElements elements) bench (.ended (.brokeDown crash))
      (bench.called (.writeElements elements) s)
  | elementsWritten {elements : tc.Elements} {bench : Bench tc} {s : tc.State} :
    (tc.writeElements elements).answerIn bench.compiler = (.ok (), s) →
    Turn (.writeElements elements) bench .finish (bench.called (.writeElements elements) s)
  | finishBreaks {bench : Bench tc} {crash : Crash} {s : tc.State} :
    tc.finish.answerIn bench.compiler = (.error crash, s) →
    Turn .finish bench (.ended (.brokeDown crash)) (bench.called .finish s)
  | finished {bench : Bench tc} {data : Bytes} {s : tc.State} :
    tc.finish.answerIn bench.compiler = (.ok data, s) →
    Turn .finish bench (.layOut data) (bench.called .finish s)
  | marginBreaks {data : Bytes} {bench : Bench tc} {crash : Crash} {s : tc.State} :
    (tc.margins data.length).answerIn bench.compiler = (.error crash, s) →
    Turn (.layOut data) bench (.ended (.brokeDown crash)) { bench with compiler := s }
  /-- The module is written as text. -/
  | laidOut {data : Bytes} {bench : Bench tc} {margins : List Bytes} {s : tc.State} :
    (tc.margins data.length).answerIn bench.compiler = (.ok margins, s) →
    Turn (.layOut data) bench (.ended .produced)
      (Bench.wrote
        (Dehydrated.renderElements (baseName job.inputPath "" ".sksl") (margins.zip data))
        { bench with compiler := s })
  | complaintBreaks {bench : Bench tc} {crash : Crash} {s : tc.State} :
    tc.errorText.answerIn bench.compiler = (.error crash, s) →
    Turn .complain bench (.ended (.brokeDown crash)) (bench.called .errorText s)
  | complained {bench : Bench tc} {diagnostics : Bytes} {s : tc.State} :
    tc.errorText.answerIn bench.compiler = (.ok diagnostics, s) →
    Turn .complain bench (.ended (.rejected diagnostics)) (bench.called .errorText s)

/-- Finitely many turns. -/
inductive Turns : Phase tc → Bench tc → Phase tc → Bench tc → Prop
  | refl (phase : Phase tc) (bench : Bench tc) : Turns phase bench phase bench
  | head {phase mid last : Phase tc} {bench between after : Bench tc} :
    Turn target job phase bench mid between → Turns mid between last after →
    Turns phase bench last after

/-- The compiler's whole part of a build, from its creation to its ending. -/
def Conduct (bench : Bench tc) (ending : Ending) (after : Bench tc) : Prop :=
  Turns target job .create bench (.ended ending) after

end Turn

variable {target : Target} {job : Job β}

theorem Turns.single {phase mid : Phase tc} {bench after : Bench tc}
    (h : Turn target job phase bench mid after) : Turns target job phase bench mid after :=
  .head h (.refl mid after)

theorem Turns.trans {phase mid last : Phase tc} {bench between after : Bench tc}
    (hfirst : Turns target job phase bench mid between)
    (hrest : Turns target job mid between last after) :
    Turns target job phase bench last after := by
  induction hfirst with
  | refl => exact hrest
  | head hturn _ ih => exact .head hturn (ih hrest)

/-- The turn of a phase that makes a call: the answer says which phase comes next. -/
def Bench.turnBy {α : Type} (event : Event tc) (c : Call tc.State α)
    (next : Except Crash α → Phase tc) (bench : Bench tc) : Phase tc × Bench tc :=
  let (answer, s) := c.answerIn bench.compiler
  (next answer, bench.called event s)

/-- The turn that a phase and a bench leave, computed from what the collaborator answers. There is
none after the end. -/
def Phase.turn? (target : Target) (job : Job β) (bench : Bench tc) :
    Phase tc → Option (Phase tc × Bench tc)
  | .create =>
    bench.turnBy (.create job.caps target.permitsInvalidStaticTests)
      (tc.create job.caps target.permitsInvalidStaticTests) (.after fun _ => target.firstPhase)
  | .compile language =>
    let event := .compile job.kind job.text job.settings
    match (tc.compile job.kind job.text job.settings).answerIn bench.compiler with
    | (.error crash, s) => some (.ended (.brokeDown crash), bench.called event s)
    | (.ok none, s) => some (.complain, bench.called event s)
    | (.ok (some program), s) =>
      let name := language.baseName? job.inputPath
      some (.emit (tc.emit language program name s),
        (bench.called event s).note (.emit language name))
  | .emit (.write data next) => some (.emit next, bench.wrote data)
  | .emit (.close next) =>
    some (.emit (next bench.closeOut.1), bench.closeOut.2.note (.closed bench.closeOut.1))
  | .emit (.probe next) =>
    some (.emit (next bench.out.isValid), bench.note (.probed bench.out.isValid))
  | .emit (.finish answer s) => some (.after .decided answer, { bench with compiler := s })
  | .load =>
    bench.turnBy (.loadModule job.kind job.inputPath) (tc.loadModule job.kind job.inputPath)
      (.after fun
        | none => .complain
        | some (symbols, elements) => .makeDehydrator symbols elements)
  | .makeDehydrator symbols elements =>
    bench.turnBy .makeDehydrator tc.makeDehydrator (.after fun _ => .writeSymbols symbols elements)
  | .writeSymbols symbols elements =>
    bench.turnBy (.writeSymbols symbols) (tc.writeSymbols symbols)
      (.after fun _ => .writeElements elements)
  | .writeElements elements =>
    bench.turnBy (.writeElements elements) (tc.writeElements elements) (.after fun _ => .finish)
  | .finish => bench.turnBy .finish tc.finish (.after .layOut)
  | .layOut data =>
    match (tc.margins data.length).answerIn bench.compiler with
    | (.error crash, s) => some (.ended (.brokeDown crash), { bench with compiler := s })
    | (.ok margins, s) =>
      some (.ended .produced, Bench.wrote
        (Dehydrated.renderElements (baseName job.inputPath "" ".sksl") (margins.zip data))
        { bench with compiler := s })
  | .complain =>
    bench.turnBy .errorText tc.errorText (.after fun diagnostics => .ended (.rejected diagnostics))
  | .ended _ => none

/-- A turn is the one that its phase and the answer fix. -/
theorem Turn.eq_turn? {phase mid : Phase tc} {bench between : Bench tc}
    (h : Turn target job phase bench mid between) :
    phase.turn? target job bench = some (mid, between) := by
  cases h with
  | write | close | probe | emitBreaks | emitFails | emitted => rfl
  | createBreaks hanswer | created hanswer | loadBreaks hanswer | loadRejects hanswer
  | loaded hanswer | makeBreaks hanswer | made hanswer | symbolsBreak hanswer
  | symbolsWritten hanswer | elementsBreak hanswer | elementsWritten hanswer
  | finishBreaks hanswer | finished hanswer | complaintBreaks hanswer | complained hanswer =>
    simp only [Phase.turn?, Bench.turnBy, hanswer, Phase.after]
  | compileBreaks hanswer | compileRejects hanswer | compiled hanswer | marginBreaks hanswer
  | laidOut hanswer =>
    simp only [Phase.turn?, hanswer]

/-- A phase and a bench leave no choice of a turn. -/
theorem Turn.deterministic {phase mid other : Phase tc} {bench between elsewhere : Bench tc}
    (h : Turn target job phase bench mid between)
    (hother : Turn target job phase bench other elsewhere) :
    other = mid ∧ elsewhere = between :=
  Prod.mk.inj (Option.some.inj (hother.eq_turn?.symm.trans h.eq_turn?))

theorem Turn.not_ended {ending : Ending} {mid : Phase tc} {bench between : Bench tc} :
    ¬ Turn target job (.ended ending) bench mid between := by
  intro h
  cases h

theorem Turns.of_ended {ending other : Ending} {bench after : Bench tc}
    (h : Turns target job (.ended ending) bench (.ended other) after) :
    other = ending ∧ after = bench := by
  cases h with
  | refl => exact ⟨rfl, rfl⟩
  | head hturn _ => exact absurd hturn Turn.not_ended

/-- A run that comes to an ending goes on from wherever turns lead. -/
theorem Turns.continues {phase mid : Phase tc} {bench between after : Bench tc} {ending : Ending}
    (hfirst : Turns target job phase bench mid between)
    (h : Turns target job phase bench (.ended ending) after) :
    Turns target job mid between (.ended ending) after := by
  -- Both runs take the same first turn, since there is no other, or there is none to take.
  induction hfirst with
  | refl => exact h
  | head hturn _ ih =>
    cases h with
    | refl => exact absurd hturn Turn.not_ended
    | head hturn' hrest =>
      obtain ⟨rfl, rfl⟩ := hturn.deterministic hturn'
      exact ih hrest

/-- There is at most one ending. -/
theorem Turns.ended_unique {phase : Phase tc} {bench after elsewhere : Bench tc}
    {ending other : Ending} (h : Turns target job phase bench (.ended ending) after)
    (hother : Turns target job phase bench (.ended other) elsewhere) :
    other = ending ∧ elsewhere = after :=
  (h.continues hother).of_ended

/-! ### Every build is a run of turns -/

/-- The ending of an attempt that answers: there is an artifact, or there are diagnostics. -/
def Ending.ofAnswer : Option Bytes → Ending
  | none => produced
  | some diagnostics => rejected diagnostics

namespace Step

/-- Calling the compiler quietly is a morphism of sequences of calls. -/
theorem quietly_bind {α γ : Type} (c : Call tc.State α) (next : α → Call tc.State γ) :
    (quietly (c >>= next) : Step tc γ) = quietly c >>= fun a => quietly (next a) := by
  funext bench
  change (quietly (c >>= next)).runOn bench = (quietly c >>= fun a => quietly (next a)).runOn bench
  rw [runOn_bind]
  simp only [runOn_quietly, bind, ExceptT.bind, ExceptT.mk, ExceptT.bindCont, StateT.bind]
  rcases c bench.compiler with ⟨crash | a, s⟩ <;> rfl

theorem quietly_mapM {α γ : Type} (c : α → Call tc.State γ) (args : List α) :
    args.mapM (fun a => (quietly (c a) : Step tc γ)) = quietly (args.mapM c) := by
  induction args with
  | nil => rfl
  | cons a args ih =>
    rw [List.mapM_cons, List.mapM_cons, quietly_bind, ih]
    simp only [quietly_bind]
    rfl

variable (target job) in
/-- In this phase, the turns of the compiler take the step, whatever the bench is like. -/
def Takes {α : Type} (phase : Phase tc) (step : Step tc α) (next : α → Phase tc) : Prop :=
  ∀ bench, Turns target job phase bench (.after next (step.runOn bench).1) (step.runOn bench).2

theorem Takes.bind {α γ : Type} {phase : Phase tc} {step : Step tc α} {mid : α → Phase tc}
    {rest : α → Step tc γ} {last : γ → Phase tc} (h : Takes target job phase step mid)
    (hrest : ∀ answer, Takes target job (mid answer) (rest answer) last) :
    Takes target job phase (step >>= rest) last := by
  intro bench
  have hturns := h bench
  rw [runOn_bind]
  generalize step.runOn bench = result at hturns ⊢
  obtain ⟨crash | answer, between⟩ := result
  · exact hturns
  · exact hturns.trans (hrest answer between)

/-- A call is one turn, if the phase has a turn for either way in which it can end. -/
theorem takes_call {α : Type} {phase : Phase tc} {event : Event tc} {c : Call tc.State α}
    {next : α → Phase tc}
    (hbreaks : ∀ {bench : Bench tc} {crash : Crash} {s : tc.State},
      c.answerIn bench.compiler = (.error crash, s) →
      Turn target job phase bench (.ended (.brokeDown crash)) (bench.called event s))
    (hanswers : ∀ {bench : Bench tc} {answer : α} {s : tc.State},
      c.answerIn bench.compiler = (.ok answer, s) →
      Turn target job phase bench (next answer) (bench.called event s)) :
    Takes target job phase (call event c) next := by
  intro bench
  rw [runOn_call]
  rcases hanswer : c bench.compiler with ⟨crash | answer, s⟩
  · exact .single (hbreaks hanswer)
  · exact .single (hanswers hanswer)

theorem takes_emission (emission : Emission tc.State) :
    Takes target job (.emit emission) (Step.emission emission) .decided := by
  induction emission with
  | finish answer s =>
    intro bench
    rw [runOn_emission_finish]
    rcases answer with crash | _ | _
    · exact .single .emitBreaks
    · exact .single .emitFails
    · exact .single .emitted
  | write data next ih => exact fun bench => .head .write (ih (bench.wrote data))
  | close next ih => exact fun bench => .head .close (ih bench.closeOut.1 _)
  | probe next ih => exact fun bench => .head .probe (ih bench.out.isValid _)

theorem takes_produceCode (language : CodeTarget) :
    Takes target job (.compile language) (produceCode language job : Step tc Bool) .decided := by
  intro bench
  simp only [produceCode]
  rw [runOn_bind, runOn_call]
  rcases hanswer : tc.compile job.kind job.text job.settings bench.compiler
    with ⟨crash | _ | program, s⟩
  · exact .single (.compileBreaks hanswer)
  · exact .single (.compileRejects hanswer)
  · exact .head (.compiled hanswer) (takes_emission _ _)

theorem takes_layOut (data : Bytes) :
    Takes target job (.layOut data)
      (do
        let margins ← (List.range data.length).mapM fun offset =>
          (quietly (tc.marginAt offset) : Step tc Bytes)
        write (Dehydrated.renderElements (baseName job.inputPath "" ".sksl") (margins.zip data))
        return true)
      .decided := by
  intro bench
  rw [quietly_mapM, runOn_bind, runOn_quietly]
  rcases hanswer : (List.range data.length).mapM tc.marginAt bench.compiler
    with ⟨crash | margins, s⟩
  · exact .single (.marginBreaks hanswer)
  · exact .single (.laidOut hanswer)

theorem takes_produceModule :
    Takes target job .load (produceModule job : Step tc Bool) .decided := by
  intro bench
  simp only [produceModule]
  rw [runOn_bind, runOn_call]
  rcases hanswer : tc.loadModule job.kind job.inputPath bench.compiler
    with ⟨crash | _ | ⟨symbols, elements⟩, s⟩
  · exact .single (.loadBreaks hanswer)
  · exact .single (.loadRejects hanswer)
  · refine .head (.loaded hanswer) (Takes.bind (takes_call .makeBreaks .made) ?_ _)
    intro _
    refine (takes_call .symbolsBreak .symbolsWritten).bind fun _ => ?_
    refine (takes_call .elementsBreak .elementsWritten).bind fun _ => ?_
    exact (takes_call .finishBreaks .finished).bind takes_layOut

theorem takes_produce :
    Takes target job target.firstPhase (produce target job : Step tc Bool) .decided := by
  cases target with
  | code language => exact takes_produceCode language
  | dehydrated => exact takes_produceModule

theorem takes_attempt :
    Takes target job .create (attempt target job : Step tc (Option Bytes))
      (fun answer => .ended (.ofAnswer answer)) := by
  refine (takes_call .createBreaks .created).bind fun _ => takes_produce.bind fun produced => ?_
  cases produced with
  | true => exact fun bench => .refl _ bench
  | false => exact (takes_call .complaintBreaks .complained).bind fun _ bench => .refl _ bench

end Step

/-- The compiler's part of a build is conducted to an ending, and to the diagnostic of that. -/
theorem exists_conduct (target : Target) (job : Job β) (bench : Bench tc) :
    ∃ ending, Conduct target job bench ending (bench.diagnose target job).2 ∧
      ending.diagnostic? = (bench.diagnose target job).1 := by
  have hturns : Turns target job .create bench _ _ := Step.takes_attempt bench
  unfold Bench.diagnose
  generalize (Step.attempt target job).runOn bench = result at hturns ⊢
  rcases result with ⟨crash | _ | diagnostics, after⟩
  · exact ⟨.brokeDown crash, hturns, rfl⟩
  · exact ⟨.produced, hturns, rfl⟩
  · exact ⟨.rejected diagnostics, hturns, rfl⟩

/-- Whatever run of turns is found, it is the one of the build. -/
theorem Conduct.diagnose_eq {bench after : Bench tc} {ending : Ending}
    (h : Conduct target job bench ending after) :
    bench.diagnose target job = (ending.diagnostic?, after) := by
  obtain ⟨found, hfound, hdiagnostic⟩ := exists_conduct target job bench
  obtain ⟨rfl, hafter⟩ := h.ended_unique hfound
  exact Prod.ext hdiagnostic.symm hafter

end ShaderDriver
