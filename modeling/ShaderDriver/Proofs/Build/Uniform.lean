import ShaderDriver.Proofs.Build.Artifact
import ShaderDriver.Proofs.Stream.Opening

/-!
# ShaderDriver.Proofs.Build.Uniform

**A build does not look at the files.** Once its output is open, a build sees nothing of the files
but what its stream answers, and changes nothing of them but the sink. So it does the same in all
files in which its output opens on that sink: it ends alike, asks the same of the compiler, and
fills the sink with the same content (`build_uniform`).

`Sink.Uniform` says this of whatever acts on a bench; it is proved for the operations of a stream,
then for the steps of a build as they are composed.
-/

namespace ShaderDriver

variable {β : Type} {tc : Toolchain β}

/-! ### Operations of a stream -/

namespace OutputStream

variable {sink : Sink} {out : OutputStream}

/-- The stream is closed, or it is open on the sink. -/
def KeepsTo (sink : Sink) (out : OutputStream) : Prop := ∀ other, out.sink = some other → other = sink

theorem store_uniform (h : out.KeepsTo sink) (content data : Bytes) :
    ∃ after later, after.KeepsTo sink ∧
      ∀ files, out.store data (sink.fill content files) = (after, sink.fill later files) := by
  unfold store
  cases hsink : out.sink with
  | none => exact ⟨out, content, h, fun files => rfl⟩
  | some other =>
    obtain rfl := h other hsink
    have hkept : ∀ third, some other = some third → third = other :=
      fun third hthird => (Option.some.inj hthird).symm
    cases other with
    | file location =>
      refine ⟨{ out with sink := some (.file location), position := out.position + data.length },
        overlay content out.position data, hkept, fun files => Prod.ext rfl ?_⟩
      exact FileTree.storeAt_put_overlay files location content out.position data
    | full =>
      exact ⟨{ out with sink := some .full, failed := out.failed || !data.isEmpty }, content, hkept,
        fun files => rfl⟩

theorem flush_uniform (h : out.KeepsTo sink) (content : Bytes) :
    ∃ after later, after.KeepsTo sink ∧
      ∀ files, out.flush (sink.fill content files) = (after, sink.fill later files) := by
  have hempty : { out with pending := [] }.KeepsTo sink := h
  exact store_uniform hempty content out.pending

theorem write_uniform (h : out.KeepsTo sink) (content data : Bytes) :
    ∃ after later, after.KeepsTo sink ∧
      ∀ files, out.write data (sink.fill content files) = (after, sink.fill later files) := by
  unfold write
  split
  · exact ⟨out, content, h, fun files => rfl⟩
  split
  · exact ⟨{ out with pending := out.pending ++ data }, content, h, fun files => rfl⟩
  obtain ⟨flushed, between, hflushed, hflush⟩ := flush_uniform h content
  simp only [hflush]
  split
  · exact store_uniform hflushed between data
  · exact ⟨{ flushed with pending := data }, between, hflushed, fun files => rfl⟩

theorem close_uniform (h : out.KeepsTo sink) (content : Bytes) :
    ∃ stored after later, after.KeepsTo sink ∧
      ∀ files, out.close (sink.fill content files) = (stored, after, sink.fill later files) := by
  unfold close
  cases out.sink with
  | none => exact ⟨false, out, content, h, fun files => rfl⟩
  | some other =>
    obtain ⟨flushed, later, -, hflush⟩ := flush_uniform h content
    simp only [hflush]
    exact ⟨_, { flushed with sink := none }, later, nofun, fun files => rfl⟩

end OutputStream

/-! ### Steps of a build -/

namespace Bench

/-- The bench with other files. -/
def withFiles (bench : Bench tc) (files : FileTree) : Bench tc := { bench with files }

end Bench

/-- What acts on a bench does the same in all files: it answers alike, leaves the same bench but for
the files, and makes the same content of that of the sink. -/
def Sink.Uniform {α : Type} (sink : Sink) (act : Bench tc → α × Bench tc) : Prop :=
  ∀ (bench : Bench tc) (content : Bytes), bench.out.KeepsTo sink →
    ∃ answer after later, after.out.KeepsTo sink ∧
      ∀ files, act (bench.withFiles (sink.fill content files)) =
        (answer, Bench.withFiles after (sink.fill later files))

namespace Step

variable {sink : Sink}

theorem uniform_pure {α : Type} (a : α) : sink.Uniform (pure a : Step tc α).runOn :=
  fun bench content hkeeps => ⟨.ok a, bench, content, hkeeps, fun _ => rfl⟩

theorem uniform_bind {α γ : Type} {step : Step tc α} {rest : α → Step tc γ}
    (h : sink.Uniform step.runOn) (hrest : ∀ a, sink.Uniform (rest a).runOn) :
    sink.Uniform (step >>= rest).runOn := by
  intro bench content hkeeps
  obtain ⟨answer, between, mid, hbetween, hstep⟩ := h bench content hkeeps
  simp only [runOn_bind, hstep]
  cases answer with
  | error crash => exact ⟨.error crash, between, mid, hbetween, fun _ => rfl⟩
  | ok a => exact hrest a between mid hbetween

theorem uniform_quietly {α : Type} (c : Call tc.State α) :
    sink.Uniform (quietly c : Step tc α).runOn :=
  fun bench content hkeeps =>
    ⟨(c bench.compiler).1, { bench with compiler := (c bench.compiler).2 }, content, hkeeps,
      fun _ => rfl⟩

theorem uniform_note (event : Event tc) :
    sink.Uniform (modify (Bench.note event) : Step tc Unit).runOn :=
  fun bench content hkeeps => ⟨.ok (), bench.note event, content, hkeeps, fun _ => rfl⟩

theorem uniform_call {α : Type} (event : Event tc) (c : Call tc.State α) :
    sink.Uniform (call event c).runOn :=
  uniform_bind (uniform_note event) fun _ => uniform_quietly c

theorem uniform_closeOut : sink.Uniform (Bench.closeOut : Bench tc → Bool × Bench tc) := by
  intro bench content hkeeps
  obtain ⟨stored, out, later, hout, hclose⟩ := OutputStream.close_uniform hkeeps content
  refine ⟨stored, if bench.out.sink.isSome then { bench with out }.note (.released out.path)
    else { bench with out }, later, ?_, fun files => ?_⟩
  · split <;> exact hout
  · simp only [Bench.closeOut, Bench.withFiles, hclose]
    split <;> rfl

theorem uniform_writeOut (data : Bytes) :
    sink.Uniform fun bench : Bench tc => ((), bench.write data) := by
  intro bench content hkeeps
  obtain ⟨out, later, hout, hwrite⟩ := OutputStream.write_uniform hkeeps content data
  refine ⟨(), { bench with out }, later, hout, fun files => ?_⟩
  simp only [Bench.write, Bench.withFiles, hwrite]

theorem uniform_write (data : Bytes) : sink.Uniform (write data : Step tc Unit).runOn := by
  intro bench content hkeeps
  obtain ⟨answer, after, later, hafter, hwrite⟩ :=
    uniform_writeOut data (bench.note (.wrote data)) content hkeeps
  exact ⟨.ok (), after, later, hafter, fun files => Prod.ext rfl (Prod.mk.inj (hwrite files)).2⟩

theorem uniform_emission (emission : Emission tc.State) :
    sink.Uniform (Step.emission emission).runOn := by
  induction emission with
  | finish answer compiler =>
    exact fun bench content hkeeps =>
      ⟨answer, { bench with compiler }, content, hkeeps, fun _ => rfl⟩
  | write data next ih => exact uniform_bind (uniform_write data) fun _ => ih
  | close next ih =>
    intro bench content hkeeps
    obtain ⟨stored, between, mid, hbetween, hclose⟩ := uniform_closeOut bench content hkeeps
    obtain ⟨answer, after, later, hafter, hnext⟩ :=
      ih stored (between.note (.closed stored)) mid hbetween
    refine ⟨answer, after, later, hafter, fun files => ?_⟩
    rw [runOn_emission_close, hclose]
    exact hnext files
  | probe next ih =>
    intro bench content hkeeps
    exact ih bench.out.isValid (bench.note (.probed bench.out.isValid)) content hkeeps

variable (target : Target) (job : Job β)

theorem uniform_produceCode (language : CodeTarget) :
    sink.Uniform (produceCode language job : Step tc Bool).runOn := by
  refine uniform_bind (uniform_call _ _) fun program? => ?_
  cases program? with
  | none => exact uniform_pure false
  | some program =>
    refine uniform_bind (uniform_note _) fun _ bench content hkeeps => ?_
    exact uniform_emission
      (tc.emit language program (language.baseName? job.inputPath) bench.compiler) bench content
      hkeeps

theorem uniform_produceModule : sink.Uniform (produceModule job : Step tc Bool).runOn := by
  refine uniform_bind (uniform_call _ _) fun module? => ?_
  rcases module? with _ | ⟨symbols, elements⟩
  · exact uniform_pure false
  · refine uniform_bind (uniform_call _ _) fun _ => ?_
    refine uniform_bind (uniform_call _ _) fun _ => ?_
    refine uniform_bind (uniform_call _ _) fun _ => ?_
    refine uniform_bind (uniform_call _ _) fun data => ?_
    rw [quietly_mapM]
    refine uniform_bind (uniform_quietly _) fun margins => ?_
    exact uniform_bind (uniform_write _) fun _ => uniform_pure true

theorem uniform_attempt : sink.Uniform (attempt target job : Step tc (Option Bytes)).runOn := by
  refine uniform_bind (uniform_call _ _) fun _ => uniform_bind ?_ fun produced => ?_
  · cases target with
    | code language => exact uniform_produceCode job language
    | dehydrated => exact uniform_produceModule job
  · cases produced with
    | true => exact uniform_pure none
    | false => exact uniform_bind (uniform_call _ _) fun diagnostics => uniform_pure (some diagnostics)

end Step

namespace Bench

variable {sink : Sink}

theorem uniform_diagnose (target : Target) (job : Job β) :
    sink.Uniform (diagnose target job : Bench tc → Option Bytes × Bench tc) := by
  intro bench content hkeeps
  obtain ⟨answer, after, later, hafter, hattempt⟩ :=
    Step.uniform_attempt target job bench content hkeeps
  simp only [diagnose, hattempt]
  cases answer with
  | error crash => exact ⟨_, after, later, hafter, fun _ => rfl⟩
  | ok diagnostic => exact ⟨diagnostic, after, later, hafter, fun _ => rfl⟩

/-- The diagnostic replaces what the output holds in the same way in all files in which the output
opens. -/
theorem uniform_writeDiagnostic (path : FilePath) (diagnostic : Bytes) {bench : Bench tc}
    (content : Bytes) (hkeeps : bench.out.KeepsTo sink) :
    ∃ after later, ∀ files, (OutputStream.openPath path files).1.sink = some sink →
      (bench.withFiles (sink.fill content files)).writeDiagnostic path diagnostic =
        withFiles after (sink.fill later files) := by
  obtain ⟨kept, closed, held, -, hclose⟩ := Step.uniform_closeOut bench content hkeeps
  let reopened : Bench tc :=
    { closed with out := { path := path.text, sink := some sink } }.note (.opened path.text)
  have hreopened : reopened.out.KeepsTo sink := fun other hother => (Option.some.inj hother).symm
  obtain ⟨_, started, first, hstarted, hfirst⟩ :=
    Step.uniform_writeOut failureBanner reopened [] hreopened
  obtain ⟨_, filled, second, hfilled, hsecond⟩ :=
    Step.uniform_writeOut diagnostic started first hstarted
  obtain ⟨stored, after, later, -, hlast⟩ := Step.uniform_closeOut filled second hfilled
  refine ⟨after, later, fun files hopens => ?_⟩
  have hopen : (withFiles closed (sink.fill held files)).openOut path =
      reopened.withFiles (sink.fill [] files) := by
    have hfresh : OutputStream.openPath path (sink.fill held files) =
        ({ path := path.text, sink := some sink }, sink.fill [] files) := by
      rw [OutputStream.openPath_fill hopens, OutputStream.openPath_of_sink hopens]
    simp only [openOut, withFiles, hfresh]
    rfl
  simp only [writeDiagnostic, hclose, hopen, (Prod.mk.inj (hfirst files)).2,
    (Prod.mk.inj (hsecond files)).2, hlast]

end Bench

/-! ### Whole builds -/

/-- **A build does the same in all files** in which its output opens on the same sink. -/
theorem build_uniform (target : Target) (job : Job β) (compiler : tc.State) (path : FilePath)
    (sink : Sink) :
    ∃ (built : Built tc) (content : Bytes), ∀ files, job.OpensOn files path sink →
      build target job files compiler = { built with files := sink.fill content files } := by
  let start : Bench tc :=
    { files := {}, out := { path := path.text, sink := some sink }, compiler
      journal := [.opened path.text] }
  have hstart : start.out.KeepsTo sink := fun other hother => (Option.some.inj hother).symm
  have hopened (files : FileTree) (hopens : job.OpensOn files path sink) :
      Bench.opened path files compiler = start.withFiles (sink.fill [] files) := by
    simp only [Bench.opened, OutputStream.openPath_of_sink hopens.2]
    rfl
  obtain ⟨diagnostic?, after, content, hafter, hdiagnose⟩ :=
    Bench.uniform_diagnose target (job.adjustedTo target) start [] hstart
  cases diagnostic? with
  | some diagnostic =>
    obtain ⟨last, final, hlast⟩ := Bench.uniform_writeDiagnostic path diagnostic content hafter
    refine ⟨last.finish (.error (.failed (.compilation diagnostic))) (target.adjust job.settings),
      final, fun files hopens => ?_⟩
    rw [build_of_opens hopens, hopened files hopens, hdiagnose]
    dsimp only
    rw [hlast files hopens.2]
    rfl
  | none =>
    obtain ⟨stored, last, final, -, hlast⟩ := Step.uniform_closeOut after content hafter
    refine ⟨last.finish (if stored then .ok () else .error (.failed (.unwritable job.outputPath)))
      (target.adjust job.settings), final, fun files hopens => ?_⟩
    rw [build_of_opens hopens, hopened files hopens, hdiagnose]
    dsimp only
    rw [hlast files]
    rfl

end ShaderDriver
