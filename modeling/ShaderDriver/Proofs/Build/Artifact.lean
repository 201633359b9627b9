import ShaderDriver.Caps.Cache
import ShaderDriver.Proofs.Build.Conduct
import ShaderDriver.Proofs.Stream.Content

/-!
# ShaderDriver.Proofs.Build.Artifact

**What the compiler's part of a build makes of the output.** `Bench.Holds` is the invariant: as long
as the emitter has not closed its stream, the stream carries exactly what was written; from then on
the output holds some content, and the stream is closed. A turn leaves the artifact alone, or writes
to it, or closes the stream (`Turn.handled`), and each of these keeps the invariant up, so it holds
at every point of every build (`Turns.holds`).

`build_eq` gives the rest of a build in one equation, by the ending and the bench that the compiler
has left.
-/

namespace ShaderDriver

variable {β : Type} {tc : Toolchain β}

/-! ### Written and closed -/

namespace Event

/-- What an event has added to the artifact. -/
def data? : Event tc → Option Bytes
  | wrote data => some data
  | _ => none

/-- Whether an event is the emitter's closing of its stream. -/
def isClosed : Event tc → Bool
  | closed _ => true
  | _ => false

/-- The event has nothing to do with the artifact. -/
def IsAside (event : Event tc) : Prop := event.data? = none ∧ event.isClosed = false

end Event

/-- All that was written to the artifact, in order. -/
def written (journal : List (Event tc)) : List Bytes := journal.filterMap Event.data?

/-- Whether the emitter has closed its stream. -/
def emitterClosed (journal : List (Event tc)) : Bool := journal.any Event.isClosed

@[simp] theorem written_append (journal after : List (Event tc)) :
    written (journal ++ after) = written journal ++ written after :=
  List.filterMap_append

@[simp] theorem emitterClosed_append (journal after : List (Event tc)) :
    emitterClosed (journal ++ after) = (emitterClosed journal || emitterClosed after) :=
  List.any_append

theorem written_eq_nil {events : List (Event tc)} (h : ∀ event ∈ events, event.IsAside) :
    written events = [] :=
  List.filterMap_eq_nil_iff.mpr fun event hevent => (h event hevent).1

theorem emitterClosed_eq_false {events : List (Event tc)} (h : ∀ event ∈ events, event.IsAside) :
    emitterClosed events = false := by
  rw [emitterClosed, List.any_eq_false]
  intro event hevent
  simp [(h event hevent).2]

/-! ### The invariant of the output -/

namespace Bench

/-- What is known of the output, which was opened on the sink in the files `before`: it holds what
was written, or the emitter has closed it. -/
inductive Holds (before : FileTree) (sink : Sink) (bench : Bench tc) : Prop
  | carried
    (hopen : emitterClosed bench.journal = false)
    (hcarries : OutputStream.Carries before sink (written bench.journal).flatten bench.out
      bench.files)
  | shut (content : Bytes)
    (hclosed : emitterClosed bench.journal = true)
    (hsink : bench.out.sink = none)
    (hfiles : bench.files = sink.fill content before)

/-- What a turn does with the artifact: nothing, or it writes to it, or it closes the stream. -/
inductive Handled (bench : Bench tc) : Bench tc → Prop
  | aside {after : Bench tc} {events : List (Event tc)}
    (hfiles : after.files = bench.files) (hout : after.out = bench.out)
    (hjournal : after.journal = bench.journal ++ events)
    (haside : ∀ event ∈ events, event.IsAside) : Handled bench after
  | wrote (data : Bytes) (compiler : tc.State) :
    Handled bench (({ bench with compiler } : Bench tc).wrote data)
  | closed : Handled bench (bench.closeOut.2.note (.closed bench.closeOut.1))

variable {before : FileTree} {sink : Sink} {bench after : Bench tc}

theorem Handled.called {event : Event tc} (h : event.IsAside) (s : tc.State) :
    bench.Handled (bench.called event s) := by
  refine .aside rfl rfl (rfl : _ = bench.journal ++ [event]) ?_
  intro other hother
  rw [List.mem_singleton.mp hother]
  exact h

theorem written_wrote (data : Bytes) (bench : Bench tc) :
    written (bench.wrote data).journal = written bench.journal ++ [data] :=
  written_append _ _

theorem emitterClosed_wrote (data : Bytes) (bench : Bench tc) :
    emitterClosed (bench.wrote data).journal = emitterClosed bench.journal := by
  change emitterClosed (bench.journal ++ [.wrote data]) = _
  rw [emitterClosed_append]
  exact Bool.or_false _

theorem files_closeOut (bench : Bench tc) :
    bench.closeOut.2.files = (bench.out.close bench.files).2.2 := by
  unfold closeOut
  dsimp only
  split <;> rfl

theorem out_closeOut (bench : Bench tc) :
    bench.closeOut.2.out = (bench.out.close bench.files).2.1 := by
  unfold closeOut
  dsimp only
  split <;> rfl

/-- Closing notes at most that the file is released. -/
theorem journal_closeOut (bench : Bench tc) :
    ∃ events : List (Event tc), bench.closeOut.2.journal = bench.journal ++ events ∧
      ∀ event ∈ events, event.IsAside := by
  unfold closeOut
  dsimp only
  split
  · refine ⟨[.released _], rfl, ?_⟩
    intro event hevent
    rw [List.mem_singleton.mp hevent]
    exact ⟨rfl, rfl⟩
  · exact ⟨[], (List.append_nil _).symm, nofun⟩

theorem written_closeOut (bench : Bench tc) :
    written bench.closeOut.2.journal = written bench.journal := by
  obtain ⟨events, hjournal, haside⟩ := bench.journal_closeOut
  rw [hjournal, written_append, written_eq_nil haside, List.append_nil]

theorem written_openOut (path : FilePath) (bench : Bench tc) :
    written (bench.openOut path).journal = written bench.journal := by
  unfold openOut
  dsimp only
  split
  · exact (written_append _ _).trans (List.append_nil _)
  · rfl

/-- A diagnostic is no part of the artifact. -/
theorem written_writeDiagnostic (path : FilePath) (diagnostic : Bytes) (bench : Bench tc) :
    written (bench.writeDiagnostic path diagnostic).journal = written bench.journal := by
  rw [writeDiagnostic, written_closeOut]
  exact (written_openOut path bench.closeOut.2).trans bench.written_closeOut

namespace Holds

/-- Closing the output settles it: it then holds what was written, unless the emitter has closed it
before. -/
theorem closeOut (h : bench.Holds before sink) :
    bench.closeOut.2.out.sink = none ∧
      ∃ content, bench.closeOut.2.files = sink.fill content before ∧
        (emitterClosed bench.journal = false → content = (written bench.journal).flatten) := by
  rw [files_closeOut, out_closeOut]
  cases h with
  | carried hopen hcarries =>
    obtain ⟨-, hsink, hfiles⟩ := hcarries.close
    exact ⟨hsink, _, hfiles, fun _ => rfl⟩
  | shut content hclosed hsink hfiles =>
    rw [OutputStream.close_of_closed hsink]
    exact ⟨hsink, content, hfiles, by simp [hclosed]⟩

/-- The driver's closing of the output succeeds if the emitter has left that to it, and the sink
could keep what was written. -/
theorem stored_closeOut (h : bench.Holds before sink) :
    bench.closeOut.1 =
      (!emitterClosed bench.journal && sink.keeps (written bench.journal).flatten) := by
  have hstored : bench.closeOut.1 = (bench.out.close bench.files).1 := rfl
  rw [hstored]
  cases h with
  | carried hopen hcarries =>
    rw [hcarries.close.1, hopen]
    rfl
  | shut content hclosed hsink hfiles =>
    rw [OutputStream.close_of_closed hsink, hclosed]
    rfl

theorem aside {events : List (Event tc)} (h : bench.Holds before sink)
    (hfiles : after.files = bench.files) (hout : after.out = bench.out)
    (hjournal : after.journal = bench.journal ++ events)
    (haside : ∀ event ∈ events, event.IsAside) : after.Holds before sink := by
  have hwritten : written after.journal = written bench.journal := by
    rw [hjournal, written_append, written_eq_nil haside, List.append_nil]
  have hclosings : emitterClosed after.journal = emitterClosed bench.journal := by
    rw [hjournal, emitterClosed_append, emitterClosed_eq_false haside, Bool.or_false]
  cases h with
  | carried hopen hcarries =>
    refine .carried (hclosings.trans hopen) ?_
    rw [hwritten, hout, hfiles]
    exact hcarries
  | shut content hclosed hsink hcontent =>
    refine .shut content (hclosings.trans hclosed) ?_ (hfiles.trans hcontent)
    rw [hout]
    exact hsink

theorem wrote (h : bench.Holds before sink) (data : Bytes) :
    (bench.wrote data).Holds before sink := by
  have hclosings := emitterClosed_wrote data bench
  cases h with
  | carried hopen hcarries =>
    refine .carried (hclosings.trans hopen) ?_
    rw [written_wrote, List.flatten_concat]
    exact hcarries.write data
  | shut content hclosed hsink hcontent =>
    have hignored := OutputStream.write_of_closed hsink data bench.files
    refine .shut content (hclosings.trans hclosed) ?_ ?_
    · change (bench.out.write data bench.files).1.sink = none
      rw [hignored]
      exact hsink
    · change (bench.out.write data bench.files).2 = _
      rw [hignored]
      exact hcontent

theorem closed (h : bench.Holds before sink) :
    (bench.closeOut.2.note (.closed bench.closeOut.1)).Holds before sink := by
  obtain ⟨hsink, content, hfiles, -⟩ := h.closeOut
  refine .shut content ?_ hsink hfiles
  change emitterClosed (bench.closeOut.2.journal ++ [.closed bench.closeOut.1]) = true
  rw [emitterClosed_append]
  exact Bool.or_true _

/-- A change of compiler is no change of the output. -/
theorem withCompiler (h : bench.Holds before sink) (compiler : tc.State) :
    ({ bench with compiler } : Bench tc).Holds before sink :=
  h.aside rfl rfl (List.append_nil _).symm nofun

/-- Whatever is done with the artifact keeps the invariant up. -/
theorem handled (h : bench.Holds before sink) (hhandled : bench.Handled after) :
    after.Holds before sink := by
  cases hhandled with
  | aside hfiles hout hjournal haside => exact h.aside hfiles hout hjournal haside
  | wrote data compiler => exact (h.withCompiler compiler).wrote data
  | closed => exact h.closed

end Holds

end Bench

/-! ### Turns keep the invariant up -/

variable {target : Target} {job : Job β} {before : FileTree} {sink : Sink}

/-- Every turn leaves the artifact alone, or writes to it, or closes the stream. -/
theorem Turn.handled {phase mid : Phase tc} {bench between : Bench tc}
    (h : Turn target job phase bench mid between) : bench.Handled between := by
  cases h with
  | write => exact .wrote _ bench.compiler
  | laidOut => exact .wrote _ _
  | close => exact .closed
  | compiled =>
    -- Two events at once: the call that answers, and the emission that begins.
    refine .aside rfl rfl (List.append_assoc _ [_] [_]) ?_
    intro event hevent
    rcases List.mem_cons.mp hevent with rfl | hrest
    · exact ⟨rfl, rfl⟩
    · rw [List.mem_singleton.mp hrest]
      exact ⟨rfl, rfl⟩
  | probe => exact .called ⟨rfl, rfl⟩ bench.compiler
  | emitBreaks | emitFails | emitted | marginBreaks =>
    exact .aside rfl rfl (List.append_nil _).symm nofun
  | _ => exact .called ⟨rfl, rfl⟩ _

theorem Turns.holds {phase last : Phase tc} {bench after : Bench tc}
    (h : Turns target job phase bench last after) (hholds : bench.Holds before sink) :
    after.Holds before sink := by
  induction h with
  | refl => exact hholds
  | head hturn _ ih => exact ih (hholds.handled hturn.handled)

/-! ### The rest of a build -/

/-- The job with the settings that the target insists on. -/
def Job.adjustedTo (job : Job β) (target : Target) : Job β :=
  { job with settings := target.adjust job.settings }

/-- The output path of a job can be opened for writing, on this sink. -/
def Job.OpensOn (job : Job β) (files : FileTree) (path : FilePath) (sink : Sink) : Prop :=
  FilePath.ofString? job.outputPath = some path ∧
    (OutputStream.openPath path files).1.sink = some sink

/-- A job that leads from one file to another beside it. -/
def Job.toGlsl : Job Caps where
  kind := .fragment
  text := utf8 "void main() {}"
  settings := {}
  caps := none
  inputPath := "in.frag"
  outputPath := "out.glsl"

theorem Job.opensOn_toGlsl :
    Job.toGlsl.OpensOn {} ⟨"out.glsl", by decide⟩ (.file ["out.glsl"]) := by
  have hlocate : ({} : FileTree).locate? "out.glsl" = some ["out.glsl"] := by decide
  refine ⟨dif_neg (by decide), ?_⟩
  simp [OutputStream.openPath, hlocate]

/-- The bench of a build whose output has just been opened. -/
def Bench.opened (path : FilePath) (files : FileTree) (compiler : tc.State) : Bench tc where
  files := (OutputStream.openPath path files).2
  out := (OutputStream.openPath path files).1
  compiler
  journal := [.opened path.text]

theorem Bench.holds_opened {path : FilePath} {files : FileTree}
    (h : (OutputStream.openPath path files).1.sink = some sink) (compiler : tc.State) :
    (Bench.opened path files compiler : Bench tc).Holds files sink :=
  .carried rfl (OutputStream.carries_openPath h)

namespace OutputStream

/-- A stream that has just been opened is valid. -/
theorem isValid_openPath (path : FilePath) (files : FileTree) :
    (openPath path files).1.isValid = (openPath path files).1.sink.isSome := by
  unfold openPath
  split
  · rfl
  · split <;> rfl

end OutputStream

/-- A build whose output opens has the compiler fill it, and goes on by the diagnostic. -/
theorem buildWith_of_opens (codec : Codec tc) {files : FileTree} {path : FilePath}
    (hopens : job.OpensOn files path sink) (compiler : tc.State) :
    buildWith codec target job files compiler =
      match (Bench.opened path files compiler).diagnose target (job.adjustedTo target) with
      | (some diagnostic, bench) =>
        match codec.unencodable? bench.compiler diagnostic with
        | some complaint =>
          (bench.abandonDiagnostic path).finish (.error (.escaped (.unencodable complaint)))
            (target.adjust job.settings)
        | none =>
          (bench.writeDiagnostic path diagnostic).finish
            (.error (.failed (.compilation diagnostic))) (target.adjust job.settings)
      | (none, bench) =>
        bench.closeOut.2.finish
          (if bench.closeOut.1 then .ok () else .error (.failed (.unwritable job.outputPath)))
          (target.adjust job.settings) := by
  obtain ⟨hpath, hsink⟩ := hopens
  have hvalid : (OutputStream.openPath path files).1.isValid = true := by
    rw [OutputStream.isValid_openPath, hsink]
    rfl
  have hidle : Bench.openOut path
      { files, out := .unopened job.outputPath, compiler, journal := [] } =
      (Bench.opened path files compiler : Bench tc) := by
    simp [Bench.openOut, hvalid, Bench.note, Bench.opened]
  simp only [buildWith, hpath, hidle]
  rw [show (Bench.opened path files compiler : Bench tc).out.isValid = true from hvalid]
  rfl

theorem build_of_opens {files : FileTree} {path : FilePath}
    (hopens : job.OpensOn files path sink) (compiler : tc.State) :
    build target job files compiler =
      match (Bench.opened path files compiler).diagnose target (job.adjustedTo target) with
      | (some diagnostic, bench) =>
        (bench.writeDiagnostic path diagnostic).finish
          (.error (.failed (.compilation diagnostic))) (target.adjust job.settings)
      | (none, bench) =>
        bench.closeOut.2.finish
          (if bench.closeOut.1 then .ok () else .error (.failed (.unwritable job.outputPath)))
          (target.adjust job.settings) :=
  buildWith_of_opens .total hopens compiler

/-- The rest of a build whose output opens, by what the compiler has made of it. -/
theorem buildWith_eq (codec : Codec tc) {files : FileTree} {path : FilePath} {compiler : tc.State}
    {ending : Ending} {after : Bench tc} (hopens : job.OpensOn files path sink)
    (h : Conduct target (job.adjustedTo target) (.opened path files compiler) ending after) :
    buildWith codec target job files compiler =
      match ending.diagnostic? with
      | some diagnostic =>
        match codec.unencodable? after.compiler diagnostic with
        | some complaint =>
          (after.abandonDiagnostic path).finish (.error (.escaped (.unencodable complaint)))
            (target.adjust job.settings)
        | none =>
          (after.writeDiagnostic path diagnostic).finish
            (.error (.failed (.compilation diagnostic))) (target.adjust job.settings)
      | none =>
        after.closeOut.2.finish
          (if after.closeOut.1 then .ok () else .error (.failed (.unwritable job.outputPath)))
          (target.adjust job.settings) := by
  rw [buildWith_of_opens codec hopens, h.diagnose_eq]
  cases ending.diagnostic? <;> rfl

theorem build_eq {files : FileTree} {path : FilePath} {compiler : tc.State} {ending : Ending}
    {after : Bench tc} (hopens : job.OpensOn files path sink)
    (h : Conduct target (job.adjustedTo target) (.opened path files compiler) ending after) :
    build target job files compiler =
      match ending.diagnostic? with
      | some diagnostic =>
        (after.writeDiagnostic path diagnostic).finish
          (.error (.failed (.compilation diagnostic))) (target.adjust job.settings)
      | none =>
        after.closeOut.2.finish
          (if after.closeOut.1 then .ok () else .error (.failed (.unwritable job.outputPath)))
          (target.adjust job.settings) := by
  rw [build_of_opens hopens, h.diagnose_eq]
  cases ending.diagnostic? <;> rfl

/-- What a build has written is what the compiler has. -/
theorem written_build {files : FileTree} {path : FilePath} {compiler : tc.State} {ending : Ending}
    {after : Bench tc} (hopens : job.OpensOn files path sink)
    (h : Conduct target (job.adjustedTo target) (.opened path files compiler) ending after) :
    written (build target job files compiler).journal = written after.journal := by
  rw [build_eq hopens h]
  cases ending.diagnostic? with
  | some diagnostic => exact after.written_writeDiagnostic path diagnostic
  | none => exact after.written_closeOut

/-- A build whose output does not open has done nothing at all. -/
theorem buildWith_of_not_opens (codec : Codec tc) {files : FileTree}
    (h : ∀ path sink, ¬ job.OpensOn files path sink) (compiler : tc.State) :
    buildWith codec target job files compiler =
      { outcome := .error (if '\x00' ∈ job.outputPath.toList then .escaped .nullInPath
          else .failed (.unwritable job.outputPath))
        settings := job.settings
        files
        compiler
        journal := [] } := by
  cases hpath : FilePath.ofString? job.outputPath with
  | none =>
    rw [if_pos (FilePath.ofString?_eq_none_iff.mp hpath)]
    simp only [buildWith, hpath]
    rfl
  | some path =>
    have hnull : '\x00' ∉ job.outputPath.toList := by
      rw [← FilePath.ofString?_eq_none_iff, hpath]
      exact nofun
    have hsink : (OutputStream.openPath path files).1.sink = none :=
      Option.eq_none_iff_forall_not_mem.mpr fun sink hsink => h path sink ⟨hpath, hsink⟩
    have hvalid : (OutputStream.openPath path files).1.isValid = false := by
      rw [OutputStream.isValid_openPath, hsink]
      rfl
    have hfiles := OutputStream.openPath_eq_of_not_isValid hvalid
    rw [if_neg hnull]
    simp [buildWith, hpath, Bench.openOut, hvalid, hfiles, Bench.finish]

theorem build_of_not_opens {files : FileTree} (h : ∀ path sink, ¬ job.OpensOn files path sink)
    (compiler : tc.State) :
    build target job files compiler =
      { outcome := .error (if '\x00' ∈ job.outputPath.toList then .escaped .nullInPath
          else .failed (.unwritable job.outputPath))
        settings := job.settings
        files
        compiler
        journal := [] } :=
  buildWith_of_not_opens .total h compiler

theorem outcome_build_of_not_opens {files : FileTree}
    (h : ∀ path sink, ¬ job.OpensOn files path sink) (compiler : tc.State) :
    (build target job files compiler).outcome =
      .error (if '\x00' ∈ job.outputPath.toList then .escaped .nullInPath
        else .failed (.unwritable job.outputPath)) := by
  rw [build_of_not_opens h]

/-- The output of a build does not open, or the compiler conducts the build to an ending. -/
theorem opens_cases (target : Target) (job : Job β) (files : FileTree) (compiler : tc.State) :
    (∀ path sink, ¬ job.OpensOn files path sink) ∨
      ∃ path sink ending after, job.OpensOn files path sink ∧
        Conduct target (job.adjustedTo target) (.opened path files compiler) ending after := by
  by_cases hopens : ∃ path sink, job.OpensOn files path sink
  · obtain ⟨path, sink, hopens⟩ := hopens
    obtain ⟨ending, hconduct, -⟩ :=
      exists_conduct target (job.adjustedTo target) (Bench.opened path files compiler : Bench tc)
    exact Or.inr ⟨path, sink, ending, _, hopens, hconduct⟩
  · exact Or.inl fun path sink h => hopens ⟨path, sink, h⟩

end ShaderDriver
