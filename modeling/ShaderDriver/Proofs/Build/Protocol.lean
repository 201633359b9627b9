import ShaderDriver.Proofs.Build.Journal
import ShaderDriver.Toolchain.Unavailable

/-!
# ShaderDriver.Proofs.Build.Protocol

**The protocol that a build keeps to with its compiler.** The journal of a build holds the calls
without their answers, but it depends on the answers which call may come next. An `Exchange` is a
call with what it came to; it `Occurs` on a bench if that is what the compiler answers there, the
emitter's stream included. `Protocol` is the grammar: it lists the sequences of exchanges that are
allowed, each up to the call that breaks down or the last one that is asked for.

The turns of the compiler are such a sequence (`Conduct.exchanges`), and what follows them, closing
the output and writing the diagnostic, calls nobody. So the calls in the journal of every build are
those of a sequence that occurs and that the grammar allows.
-/

namespace ShaderDriver

variable {β : Type} {tc : Toolchain β} {target : Target} {job : Job β}

/-! ### Calls and exchanges -/

namespace Event

/-- Whether an event is a call of the compiler. The others concern the output alone. -/
def isCall : Event tc → Bool
  | opened _ | released _ | wrote _ | closed _ | probed _ => false
  | create _ _ | compile _ _ _ | emit _ _ | loadModule _ _ | makeDehydrator | writeSymbols _
  | writeElements _ | finish | errorText => true

/-- Whether an event asks the compiler for its diagnostics. -/
def isErrorText : Event tc → Bool
  | errorText => true
  | _ => false

end Event

/-- The calls of the compiler in a journal, in order. -/
def calls (journal : List (Event tc)) : List (Event tc) := journal.filter Event.isCall

/-- A call of the compiler, with what it came to. -/
inductive Exchange {β : Type} (tc : Toolchain β) where
  | create (caps : Option β) (permit : Bool) (answer : Except Crash Unit)
  | compile (kind : ProgramKind) (text : Bytes) (settings : Settings)
    (answer : Except Crash (Option tc.Program))
  | emit (language : CodeTarget) (program : tc.Program) (baseName : Option String)
    (answer : Except Crash Bool)
  | loadModule (kind : ProgramKind) (path : String)
    (answer : Except Crash (Option (tc.Symbols × tc.Elements)))
  | makeDehydrator (answer : Except Crash Unit)
  | writeSymbols (symbols : tc.Symbols) (answer : Except Crash Unit)
  | writeElements (elements : tc.Elements) (answer : Except Crash Unit)
  | finish (answer : Except Crash Bytes)
  | errorText (answer : Except Crash Bytes)

namespace Exchange

/-- The call, without its answer. -/
def call : Exchange tc → Event tc
  | create caps permit _ => .create caps permit
  | compile kind text settings _ => .compile kind text settings
  | emit language _ baseName _ => .emit language baseName
  | loadModule kind path _ => .loadModule kind path
  | makeDehydrator _ => .makeDehydrator
  | writeSymbols symbols _ => .writeSymbols symbols
  | writeElements elements _ => .writeElements elements
  | finish _ => .finish
  | errorText _ => .errorText

/-- The collaborator has broken down over the call. -/
def BreaksDown : Exchange tc → Prop
  | create _ _ answer | makeDehydrator answer | writeSymbols _ answer | writeElements _ answer =>
    ∃ crash, answer = .error crash
  | compile _ _ _ answer => ∃ crash, answer = .error crash
  | emit _ _ _ answer => ∃ crash, answer = .error crash
  | loadModule _ _ answer => ∃ crash, answer = .error crash
  | finish answer | errorText answer => ∃ crash, answer = .error crash

/-- The call was answered, but not with what it was to produce: there is no program or no module, or
the emitter says that it has failed. -/
def Rejects : Exchange tc → Prop
  | compile _ _ _ answer => answer = .ok none
  | emit _ _ _ answer => answer = .ok false
  | loadModule _ _ answer => answer = .ok none
  | _ => False

/-- On a bench, this is what the call comes to, and it leaves that other bench. An emitter operates
the stream of the bench. -/
inductive Occurs (bench : Bench tc) : Exchange tc → Bench tc → Prop
  | create {caps : Option β} {permit : Bool} {answer : Except Crash Unit} {s : tc.State} :
    (tc.create caps permit).answerIn bench.compiler = (answer, s) →
    Occurs bench (create caps permit answer) (bench.called (.create caps permit) s)
  | compile {kind : ProgramKind} {text : Bytes} {settings : Settings}
    {answer : Except Crash (Option tc.Program)} {s : tc.State} :
    (tc.compile kind text settings).answerIn bench.compiler = (answer, s) →
    Occurs bench (compile kind text settings answer)
      (bench.called (.compile kind text settings) s)
  | emit {language : CodeTarget} {program : tc.Program} {baseName : Option String}
    {answer : Except Crash Bool} {after : Bench tc} :
    (Step.emission (tc.emit language program baseName bench.compiler)).runOn
      (bench.note (.emit language baseName)) = (answer, after) →
    Occurs bench (emit language program baseName answer) after
  | loadModule {kind : ProgramKind} {path : String}
    {answer : Except Crash (Option (tc.Symbols × tc.Elements))} {s : tc.State} :
    (tc.loadModule kind path).answerIn bench.compiler = (answer, s) →
    Occurs bench (loadModule kind path answer) (bench.called (.loadModule kind path) s)
  | makeDehydrator {answer : Except Crash Unit} {s : tc.State} :
    tc.makeDehydrator.answerIn bench.compiler = (answer, s) →
    Occurs bench (makeDehydrator answer) (bench.called .makeDehydrator s)
  | writeSymbols {symbols : tc.Symbols} {answer : Except Crash Unit} {s : tc.State} :
    (tc.writeSymbols symbols).answerIn bench.compiler = (answer, s) →
    Occurs bench (writeSymbols symbols answer) (bench.called (.writeSymbols symbols) s)
  | writeElements {elements : tc.Elements} {answer : Except Crash Unit} {s : tc.State} :
    (tc.writeElements elements).answerIn bench.compiler = (answer, s) →
    Occurs bench (writeElements elements answer) (bench.called (.writeElements elements) s)
  | finish {answer : Except Crash Bytes} {s : tc.State} :
    tc.finish.answerIn bench.compiler = (answer, s) →
    Occurs bench (finish answer) (bench.called .finish s)
  | errorText {answer : Except Crash Bytes} {s : tc.State} :
    tc.errorText.answerIn bench.compiler = (answer, s) →
    Occurs bench (errorText answer) (bench.called .errorText s)

end Exchange

/-- The exchanges occur one after the other. -/
inductive Exchanges : Bench tc → List (Exchange tc) → Bench tc → Prop
  | nil (bench : Bench tc) : Exchanges bench [] bench
  | cons {bench between after : Bench tc} {exchange : Exchange tc} {log : List (Exchange tc)} :
    exchange.Occurs bench between → Exchanges between log after →
    Exchanges bench (exchange :: log) after

/-! ### The grammar -/

section Grammar

/-- What may be said once a compiler is there that is to generate code: one compilation; if there is
a program, the emitter of the language; and the diagnostics, if one of the two rejects. -/
inductive CodeProtocol (language : CodeTarget) (job : Job β) : List (Exchange tc) → Prop
  | compileBreaks (crash : Crash) :
    CodeProtocol language job [.compile job.kind job.text job.settings (.error crash)]
  | compileRejects (answer : Except Crash Bytes) :
    CodeProtocol language job
      [.compile job.kind job.text job.settings (.ok none), .errorText answer]
  | emitBreaks (program : tc.Program) (crash : Crash) :
    CodeProtocol language job
      [.compile job.kind job.text job.settings (.ok (some program)),
        .emit language program (language.baseName? job.inputPath) (.error crash)]
  | emitRejects (program : tc.Program) (answer : Except Crash Bytes) :
    CodeProtocol language job
      [.compile job.kind job.text job.settings (.ok (some program)),
        .emit language program (language.baseName? job.inputPath) (.ok false), .errorText answer]
  | emitted (program : tc.Program) :
    CodeProtocol language job
      [.compile job.kind job.text job.settings (.ok (some program)),
        .emit language program (language.baseName? job.inputPath) (.ok true)]

/-- What may be said once a compiler is there that is to dehydrate a module: one loading; if there is
a module, its dehydration in four calls; if there is none, the diagnostics. -/
inductive ModuleProtocol (job : Job β) : List (Exchange tc) → Prop
  | loadBreaks (crash : Crash) :
    ModuleProtocol job [.loadModule job.kind job.inputPath (.error crash)]
  | loadRejects (answer : Except Crash Bytes) :
    ModuleProtocol job [.loadModule job.kind job.inputPath (.ok none), .errorText answer]
  | makeBreaks (symbols : tc.Symbols) (elements : tc.Elements) (crash : Crash) :
    ModuleProtocol job
      [.loadModule job.kind job.inputPath (.ok (some (symbols, elements))),
        .makeDehydrator (.error crash)]
  | symbolsBreak (symbols : tc.Symbols) (elements : tc.Elements) (crash : Crash) :
    ModuleProtocol job
      [.loadModule job.kind job.inputPath (.ok (some (symbols, elements))),
        .makeDehydrator (.ok ()), .writeSymbols symbols (.error crash)]
  | elementsBreak (symbols : tc.Symbols) (elements : tc.Elements) (crash : Crash) :
    ModuleProtocol job
      [.loadModule job.kind job.inputPath (.ok (some (symbols, elements))),
        .makeDehydrator (.ok ()), .writeSymbols symbols (.ok ()),
        .writeElements elements (.error crash)]
  | finished (symbols : tc.Symbols) (elements : tc.Elements) (answer : Except Crash Bytes) :
    ModuleProtocol job
      [.loadModule job.kind job.inputPath (.ok (some (symbols, elements))),
        .makeDehydrator (.ok ()), .writeSymbols symbols (.ok ()),
        .writeElements elements (.ok ()), .finish answer]

/-- What may be said in a whole build: a compiler is created, and then the target decides. -/
inductive Protocol (target : Target) (job : Job β) : List (Exchange tc) → Prop
  | createBreaks (crash : Crash) :
    Protocol target job [.create job.caps target.permitsInvalidStaticTests (.error crash)]
  | code {language : CodeTarget} {log : List (Exchange tc)} (htarget : target = .code language) :
    CodeProtocol language job log →
    Protocol target job (.create job.caps target.permitsInvalidStaticTests (.ok ()) :: log)
  | dehydrated {log : List (Exchange tc)} (htarget : target = .dehydrated) :
    ModuleProtocol job log →
    Protocol target job (.create job.caps target.permitsInvalidStaticTests (.ok ()) :: log)

end Grammar

/-! ### What the grammar rules out -/

section Grammar

variable {log : List (Exchange tc)}

/-- A call that breaks down is the last one. -/
theorem Protocol.not_breaksDown_of_mem_dropLast (h : Protocol target job log) :
    ∀ exchange ∈ log.dropLast, ¬ exchange.BreaksDown := by
  cases h with
  | createBreaks => simp
  | code _ h => cases h <;> simp [Exchange.BreaksDown]
  | dehydrated _ h => cases h <;> simp [Exchange.BreaksDown]

/-- The diagnostics are asked for exactly if something was rejected. -/
theorem Protocol.errorText_mem_iff (h : Protocol target job log) :
    .errorText ∈ log.map Exchange.call ↔ ∃ exchange ∈ log, exchange.Rejects := by
  cases h with
  | createBreaks => simp [Exchange.call, Exchange.Rejects]
  | code _ h => cases h <;> simp [Exchange.call, Exchange.Rejects]
  | dehydrated _ h => cases h <;> simp [Exchange.call, Exchange.Rejects]

/-- The diagnostics are asked for once at most. -/
theorem Protocol.countP_errorText_le (h : Protocol target job log) :
    (log.map Exchange.call).countP Event.isErrorText ≤ 1 := by
  cases h with
  | createBreaks => simp [Exchange.call, Event.isErrorText]
  | code _ h => cases h <;> simp [Exchange.call, Event.isErrorText]
  | dehydrated _ h => cases h <;> simp [Exchange.call, Event.isErrorText]

/-- The module of a dehydration is not compiled. -/
theorem Protocol.compile_notMem (h : Protocol .dehydrated job log) (kind : ProgramKind)
    (text : Bytes) (settings : Settings) :
    .compile kind text settings ∉ log.map Exchange.call := by
  cases h with
  | createBreaks => simp [Exchange.call]
  | code htarget => cases htarget
  | dehydrated _ h => cases h <;> simp [Exchange.call]

/-- The only emitter that is called is the one of the target, and it is given the name that its
language calls for. -/
theorem Protocol.of_emit_mem {language : CodeTarget} {baseName : Option String}
    (h : Protocol target job log) (hmem : .emit language baseName ∈ log.map Exchange.call) :
    target = .code language ∧ baseName = language.baseName? job.inputPath := by
  cases h with
  | createBreaks => simp [Exchange.call] at hmem
  | code htarget h => cases h <;> simp_all [Exchange.call]
  | dehydrated _ h => cases h <;> simp [Exchange.call] at hmem

end Grammar

/-! ### Exchanges and the journal -/

@[simp] theorem calls_append (journal after : List (Event tc)) :
    calls (journal ++ after) = calls journal ++ calls after :=
  List.filter_append _ _

theorem mem_calls_iff {event : Event tc} (h : event.isCall = true) {journal : List (Event tc)} :
    event ∈ calls journal ↔ event ∈ journal := by
  rw [calls, List.mem_filter, and_iff_left h]

theorem countP_errorText_calls (journal : List (Event tc)) :
    (calls journal).countP Event.isErrorText = journal.countP Event.isErrorText := by
  rw [calls, List.countP_filter]
  refine List.countP_congr fun event _ => ?_
  cases event <;> simp [Event.isErrorText, Event.isCall]

namespace Bench

theorem calls_called {event : Event tc} (h : event.isCall = true) (s : tc.State)
    (bench : Bench tc) : calls (bench.called event s).journal = calls bench.journal ++ [event] := by
  change calls (bench.journal ++ [event]) = _
  simp [calls, h]

theorem calls_note_of_not_isCall {event : Event tc} (h : event.isCall = false) (bench : Bench tc) :
    calls (bench.note event).journal = calls bench.journal := by
  change calls (bench.journal ++ [event]) = _
  simp [calls, h]

/-- Closing the stream calls nobody. -/
theorem calls_closeOut (bench : Bench tc) :
    calls bench.closeOut.2.journal = calls bench.journal := by
  unfold closeOut
  dsimp only
  split
  · exact calls_note_of_not_isCall rfl _
  · rfl

theorem calls_openOut (path : FilePath) (bench : Bench tc) :
    calls (bench.openOut path).journal = calls bench.journal := by
  unfold openOut
  dsimp only
  split
  · exact calls_note_of_not_isCall rfl _
  · rfl

theorem calls_writeDiagnostic (path : FilePath) (diagnostic : Bytes) (bench : Bench tc) :
    calls (bench.writeDiagnostic path diagnostic).journal = calls bench.journal := by
  rw [writeDiagnostic, calls_closeOut]
  exact (calls_openOut path bench.closeOut.2).trans (calls_closeOut bench)

end Bench

/-- What an emitter does with its stream calls nobody. -/
theorem Step.calls_emission (emission : Emission tc.State) (bench : Bench tc) :
    calls ((Step.emission emission).runOn bench).2.journal = calls bench.journal := by
  induction emission generalizing bench with
  | finish answer s => rfl
  | write data next ih =>
    rw [runOn_emission_write, ih]
    exact Bench.calls_note_of_not_isCall rfl bench
  | close next ih =>
    rw [runOn_emission_close, ih, Bench.calls_note_of_not_isCall rfl, Bench.calls_closeOut]
  | probe next ih =>
    rw [runOn_emission_probe, ih, Bench.calls_note_of_not_isCall rfl]

/-- An exchange that occurs is entered in the journal as its call. -/
theorem Exchange.Occurs.calls_eq {bench after : Bench tc} {exchange : Exchange tc}
    (h : exchange.Occurs bench after) :
    calls after.journal = calls bench.journal ++ [exchange.call] := by
  cases h with
  | @emit language program baseName answer after hemission =>
    have hafter := Step.calls_emission (tc.emit language program baseName bench.compiler)
      (bench.note (.emit language baseName))
    rw [hemission] at hafter
    rw [hafter]
    exact Bench.calls_called rfl bench.compiler bench
  | _ => exact Bench.calls_called rfl _ bench

namespace Exchanges

theorem single {bench after : Bench tc} {exchange : Exchange tc}
    (h : exchange.Occurs bench after) : Exchanges bench [exchange] after :=
  .cons h (.nil after)

theorem calls_eq {bench after : Bench tc} {log : List (Exchange tc)}
    (h : Exchanges bench log after) :
    calls after.journal = calls bench.journal ++ log.map Exchange.call := by
  induction h with
  | nil => simp
  | cons hoccurs _ ih => rw [ih, hoccurs.calls_eq, List.map_cons, List.append_assoc]; rfl

end Exchanges

/-! ### The turns of a compiler as exchanges -/

namespace Turns

variable {bench after : Bench tc} {ending : Ending}

/-- In a phase that makes a call, the turns end with that, or the answer is followed by the rest of
them. -/
theorem call_cases {α : Type} {phase : Phase tc} {event : Event tc} {c : Call tc.State α}
    {next : α → Phase tc} (htakes : Step.Takes target job phase (Step.call event c) next)
    (h : Turns target job phase bench (.ended ending) after) :
    (∃ crash s, c.answerIn bench.compiler = (.error crash, s) ∧ after = bench.called event s) ∨
      ∃ answer s, c.answerIn bench.compiler = (.ok answer, s) ∧
        Turns target job (next answer) (bench.called event s) (.ended ending) after := by
  have hrest := (htakes bench).continues h
  rw [Step.runOn_call] at hrest
  rcases hanswer : c bench.compiler with ⟨crash | answer, s⟩ <;> rw [hanswer] at hrest
  · exact .inl ⟨crash, s, hanswer, hrest.of_ended.2⟩
  · exact .inr ⟨answer, s, hanswer, hrest⟩

theorem exchange_complain (h : Turns target job .complain bench (.ended ending) after) :
    ∃ answer, (Exchange.errorText answer).Occurs bench after := by
  obtain ⟨crash, s, hanswer, rfl⟩ | ⟨diagnostics, s, hanswer, hrest⟩ :=
    h.call_cases (Step.takes_call .complaintBreaks .complained)
  · exact ⟨.error crash, .errorText hanswer⟩
  · obtain ⟨-, rfl⟩ := hrest.of_ended
    exact ⟨.ok diagnostics, .errorText hanswer⟩

/-- From the compilation on, the turns are exchanges that the grammar allows. -/
theorem exchanges_code {language : CodeTarget}
    (h : Turns target job (.compile language) bench (.ended ending) after) :
    ∃ log, Exchanges bench log after ∧ CodeProtocol language job log := by
  cases h with
  | head hturn hrest =>
    cases hturn with
    | compileBreaks hanswer =>
      obtain ⟨-, rfl⟩ := hrest.of_ended
      exact ⟨_, .single (.compile hanswer), .compileBreaks _⟩
    | compileRejects hanswer =>
      obtain ⟨answer, hasked⟩ := hrest.exchange_complain
      exact ⟨_, .cons (.compile hanswer) (.single hasked), .compileRejects answer⟩
    | @compiled _ _ program s hanswer =>
      -- The emitter may take many turns; they come to what it does with its stream as a whole.
      have hrest := (Step.takes_emission _ _).continues hrest
      generalize hemission : (Step.emission _).runOn _ = result at hrest
      obtain ⟨crash | _ | _, between⟩ := result
      · obtain ⟨-, rfl⟩ := hrest.of_ended
        exact ⟨_, .cons (.compile hanswer) (.single (.emit hemission)), .emitBreaks program crash⟩
      · obtain ⟨answer, hasked⟩ := hrest.exchange_complain
        exact ⟨_, .cons (.compile hanswer) (.cons (.emit hemission) (.single hasked)),
          .emitRejects program answer⟩
      · obtain ⟨-, rfl⟩ := hrest.of_ended
        exact ⟨_, .cons (.compile hanswer) (.single (.emit hemission)), .emitted program⟩

/-- Laying out the bytes of a module calls nobody. -/
theorem calls_layOut {data : Bytes}
    (h : Turns target job (.layOut data) bench (.ended ending) after) :
    calls after.journal = calls bench.journal := by
  cases h with
  | head hturn hrest =>
    cases hturn with
    | marginBreaks =>
      obtain ⟨-, rfl⟩ := hrest.of_ended
      rfl
    | laidOut =>
      obtain ⟨-, rfl⟩ := hrest.of_ended
      exact Bench.calls_note_of_not_isCall rfl _

/-- The last call of a dehydration. -/
theorem exchange_finish (h : Turns target job .finish bench (.ended ending) after) :
    ∃ answer last, (Exchange.finish answer).Occurs bench last ∧
      calls after.journal = calls last.journal := by
  obtain ⟨crash, s, hanswer, rfl⟩ | ⟨data, s, hanswer, hrest⟩ :=
    h.call_cases (Step.takes_call .finishBreaks .finished)
  · exact ⟨.error crash, _, .finish hanswer, rfl⟩
  · exact ⟨.ok data, _, .finish hanswer, hrest.calls_layOut⟩

/-- A dehydration is made of exchanges that the grammar allows behind the loading of the module. -/
theorem exchanges_dehydration {symbols : tc.Symbols} {elements : tc.Elements}
    (h : Turns target job (.makeDehydrator symbols elements) bench (.ended ending) after) :
    ∃ log last, Exchanges bench log last ∧
      ModuleProtocol job (.loadModule job.kind job.inputPath (.ok (some (symbols, elements))) :: log) ∧
      calls after.journal = calls last.journal := by
  obtain ⟨crash, s, hmake, rfl⟩ | ⟨_, s, hmake, h⟩ :=
    h.call_cases (Step.takes_call .makeBreaks .made)
  · exact ⟨_, _, .single (.makeDehydrator hmake), .makeBreaks symbols elements crash, rfl⟩
  obtain ⟨crash, s, hsymbols, rfl⟩ | ⟨_, s, hsymbols, h⟩ :=
    h.call_cases (Step.takes_call .symbolsBreak .symbolsWritten)
  · exact ⟨_, _, .cons (.makeDehydrator hmake) (.single (.writeSymbols hsymbols)),
      .symbolsBreak symbols elements crash, rfl⟩
  obtain ⟨crash, s, helements, rfl⟩ | ⟨_, s, helements, h⟩ :=
    h.call_cases (Step.takes_call .elementsBreak .elementsWritten)
  · exact ⟨_, _, .cons (.makeDehydrator hmake) (.cons (.writeSymbols hsymbols)
      (.single (.writeElements helements))), .elementsBreak symbols elements crash, rfl⟩
  obtain ⟨answer, last, hfinish, hcalls⟩ := h.exchange_finish
  exact ⟨_, last, .cons (.makeDehydrator hmake) (.cons (.writeSymbols hsymbols)
    (.cons (.writeElements helements) (.single hfinish))), .finished symbols elements answer, hcalls⟩

/-- From the loading on, the turns are exchanges that the grammar allows, and no more calls. -/
theorem exchanges_module (h : Turns target job .load bench (.ended ending) after) :
    ∃ log last, Exchanges bench log last ∧ ModuleProtocol job log ∧
      calls after.journal = calls last.journal := by
  cases h with
  | head hturn hrest =>
    cases hturn with
    | loadBreaks hanswer =>
      obtain ⟨-, rfl⟩ := hrest.of_ended
      exact ⟨_, _, .single (.loadModule hanswer), .loadBreaks _, rfl⟩
    | loadRejects hanswer =>
      obtain ⟨answer, hasked⟩ := hrest.exchange_complain
      exact ⟨_, _, .cons (.loadModule hanswer) (.single hasked), .loadRejects answer, rfl⟩
    | loaded hanswer =>
      obtain ⟨log, last, hlog, hprotocol, hcalls⟩ := hrest.exchanges_dehydration
      exact ⟨_, last, .cons (.loadModule hanswer) hlog, hprotocol, hcalls⟩

end Turns

/-- The compiler's whole part of a build is made of exchanges that the grammar allows. -/
theorem Conduct.exchanges {bench after : Bench tc} {ending : Ending}
    (h : Conduct target job bench ending after) :
    ∃ log last, Exchanges bench log last ∧ Protocol target job log ∧
      calls after.journal = calls last.journal := by
  cases h with
  | head hturn hrest =>
    cases hturn with
    | createBreaks hanswer =>
      obtain ⟨-, rfl⟩ := hrest.of_ended
      exact ⟨_, _, .single (.create hanswer), .createBreaks _, rfl⟩
    | created hanswer =>
      cases target with
      | code language =>
        obtain ⟨log, hlog, hprotocol⟩ := hrest.exchanges_code
        exact ⟨_, _, .cons (.create hanswer) hlog, .code rfl hprotocol, rfl⟩
      | dehydrated =>
        obtain ⟨log, last, hlog, hprotocol, hcalls⟩ := hrest.exchanges_module
        exact ⟨_, last, .cons (.create hanswer) hlog, .dehydrated rfl hprotocol, hcalls⟩

/-! ### Whole builds -/

/-- What follows the compiler's part of a build calls nobody. -/
theorem calls_build {files : FileTree} {compiler : tc.State} {path : FilePath} {sink : Sink}
    {ending : Ending} {after : Bench tc} (hopens : job.OpensOn files path sink)
    (h : Conduct target (job.adjustedTo target) (.opened path files compiler) ending after) :
    calls (build target job files compiler).journal = calls after.journal := by
  rw [build_eq hopens h]
  cases ending.diagnostic? with
  | some diagnostic => exact after.calls_writeDiagnostic path diagnostic
  | none => exact after.calls_closeOut

/-- The calls of a build whose output opens are exchanges that occur and that the grammar allows. -/
theorem exists_exchanges_build (target : Target) {files : FileTree} {path : FilePath} {sink : Sink}
    (compiler : tc.State) (hopens : job.OpensOn files path sink) :
    ∃ log last, Exchanges (.opened path files compiler) log last ∧
      Protocol target (job.adjustedTo target) log ∧
      calls (build target job files compiler).journal = log.map Exchange.call := by
  obtain ⟨ending, hconduct, -⟩ :=
    exists_conduct target (job.adjustedTo target) (Bench.opened path files compiler : Bench tc)
  obtain ⟨log, last, hlog, hprotocol, hcalls⟩ := hconduct.exchanges
  refine ⟨log, last, hlog, hprotocol, ?_⟩
  rw [calls_build hopens hconduct, hcalls, hlog.calls_eq]
  rfl

/-- **A build keeps to the protocol.** If its output does not open, it does nothing at all. If it
does, the calls in its journal are those of a sequence of exchanges that occurs on the bench and that
the grammar allows: there is one creation; a call that breaks down is the last one; the diagnostics
are asked for exactly if something was rejected, and once; a module is never compiled; and C++ code
is named after its input. -/
theorem build_keeps_protocol (target : Target) (job : Job β) (files : FileTree)
    (compiler : tc.State) :
    ((∀ path sink, ¬ job.OpensOn files path sink) →
      (build target job files compiler).journal = [] ∧
        (build target job files compiler).compiler = compiler) ∧
    ∀ path sink, job.OpensOn files path sink →
      ∃ log last,
        (Exchanges (.opened path files compiler) log last ∧
          Protocol target (job.adjustedTo target) log ∧
          calls (build target job files compiler).journal = log.map Exchange.call) ∧
        (build target job files compiler).journal.countP Event.isCreate = 1 ∧
        (∀ before exchange later, log = before ++ exchange :: later → exchange.BreaksDown →
          later = []) ∧
        (.errorText ∈ (build target job files compiler).journal ↔
          ∃ exchange ∈ log, exchange.Rejects) ∧
        (build target job files compiler).journal.countP Event.isErrorText ≤ 1 ∧
        (target = .dehydrated → ∀ kind text settings,
          .compile kind text settings ∉ (build target job files compiler).journal) ∧
        ∀ language baseName, .emit language baseName ∈ (build target job files compiler).journal →
          target = .code language ∧
            (language = .header ∨ language = .source →
              baseName = some (ShaderDriver.baseName job.inputPath "Gr" ".fp")) := by
  refine ⟨fun hnot => ?_, fun path sink hopens => ?_⟩
  · rw [build_of_not_opens hnot]
    exact ⟨rfl, rfl⟩
  obtain ⟨log, last, hlog, hprotocol, hcalls⟩ := exists_exchanges_build target compiler hopens
  refine ⟨log, last, ⟨hlog, hprotocol, hcalls⟩, (journal_build target compiler hopens).1,
    ?_, ?_, ?_, ?_, ?_⟩
  · rintro before exchange later rfl hbreaks
    cases later with
    | nil => rfl
    | cons next later =>
      have hmem : exchange ∈ (before ++ exchange :: next :: later).dropLast := by simp
      exact absurd hbreaks (hprotocol.not_breaksDown_of_mem_dropLast exchange hmem)
  · rw [← mem_calls_iff rfl, hcalls]
    exact hprotocol.errorText_mem_iff
  · rw [← countP_errorText_calls, hcalls]
    exact hprotocol.countP_errorText_le
  · rintro rfl kind text settings
    rw [← mem_calls_iff rfl, hcalls]
    exact hprotocol.compile_notMem kind text settings
  · intro language baseName hmem
    rw [← mem_calls_iff rfl, hcalls] at hmem
    obtain ⟨htarget, rfl⟩ := hprotocol.of_emit_mem hmem
    refine ⟨htarget, ?_⟩
    rintro (rfl | rfl) <;> rfl

theorem build_keeps_protocol_unavailable :
    Job.toGlsl.OpensOn {} ⟨"out.glsl", by decide⟩ (.file ["out.glsl"]) ∧
      calls (@build Caps (.unavailable Caps) (.code .glsl) .toGlsl {} none).journal =
        [.create none false, .compile .fragment (utf8 "void main() \x7b\x7d") {}, .errorText] := by
  obtain ⟨log, last, ⟨hlog, hprotocol, hcalls⟩, -⟩ :=
    (@build_keeps_protocol Caps (.unavailable Caps) (.code .glsl) .toGlsl {} none).2 _ _
      Job.opensOn_toGlsl
  refine ⟨Job.opensOn_toGlsl, hcalls.trans ?_⟩
  -- Of the words of the grammar, the answers of this compiler leave one.
  cases hlog with
  | nil => cases hprotocol
  | cons hcreate hlog =>
    cases hprotocol with
    | dehydrated htarget => cases htarget
    | createBreaks =>
      cases hcreate with
      | create hanswer => cases hanswer
    | code htarget hcode =>
      cases htarget
      cases hcode with
      | compileRejects => rfl
      | compileBreaks | emitBreaks | emitRejects | emitted =>
        cases hlog with
        | cons hcompile hlog =>
          cases hcompile with
          | compile hanswer => cases hanswer

end ShaderDriver
