import ShaderDriver.Proofs.Build.Artifact
import ShaderDriver.Runner
import ShaderDriver.Toolchain.Unavailable

/-!
# ShaderDriver.Proofs.Build.Diagnosis

**A failed compilation ends in its diagnostic.** Wherever the compiler's part of a build ends
without an artifact, and whatever was written or closed before, the same three steps follow: the
output is closed, opened again, and filled with a banner and the diagnostic. The invariant of the
output says that closing leaves some content on the sink; opening it again takes that away, so the
diagnostic is all that is left (`Bench.Holds.files_writeDiagnostic`).

The diagnostic that goes to the file and the one that is printed are both that of the ending
(`build_of_diagnostic`, `Runner.run_of_prepared`).
-/

namespace ShaderDriver

variable {β : Type} {tc : Toolchain β} {target : Target} {job : Job β} {files : FileTree}
  {compiler : tc.State} {path : FilePath} {sink : Sink}

namespace Bench

theorem out_openOut (path : FilePath) (bench : Bench tc) :
    (bench.openOut path).out = (OutputStream.openPath path bench.files).1 := by
  unfold openOut
  dsimp only
  split <;> rfl

theorem files_openOut (path : FilePath) (bench : Bench tc) :
    (bench.openOut path).files = (OutputStream.openPath path bench.files).2 := by
  unfold openOut
  dsimp only
  split <;> rfl

/-- Whatever the output holds, it carries nothing once it has been closed and opened again. -/
theorem Holds.reopened {bench : Bench tc} (h : bench.Holds files sink)
    (hsink : (OutputStream.openPath path files).1.sink = some sink) :
    OutputStream.Carries files sink [] (bench.closeOut.2.openOut path).out
      (bench.closeOut.2.openOut path).files := by
  obtain ⟨-, content, hfiles, -⟩ := h.closeOut
  have hreopened : OutputStream.openPath path bench.closeOut.2.files =
      OutputStream.openPath path files := by
    rw [hfiles]
    exact OutputStream.openPath_fill hsink content
  rw [out_openOut, files_openOut, hreopened]
  exact OutputStream.carries_openPath hsink

/-- Whatever the output holds, in the end it is filled with the banner and the diagnostic. -/
theorem Holds.files_writeDiagnostic {bench : Bench tc} (h : bench.Holds files sink)
    (hsink : (OutputStream.openPath path files).1.sink = some sink) (diagnostic : Bytes) :
    (bench.writeDiagnostic path diagnostic).files =
      sink.fill (failureBanner ++ diagnostic) files := by
  have hwritten := (((h.reopened hsink).write failureBanner).write diagnostic).close
  rw [writeDiagnostic, files_closeOut]
  exact hwritten.2.2

end Bench

/-- A build without an artifact fails to compile, whatever its output is like. -/
theorem build_of_diagnostic {ending : Ending} {after : Bench tc} {diagnostic : Bytes}
    (hopens : job.OpensOn files path sink)
    (h : Conduct target (job.adjustedTo target) (.opened path files compiler) ending after)
    (hdiagnostic : ending.diagnostic? = some diagnostic) :
    (build target job files compiler).outcome = .error (.failed (.compilation diagnostic)) ∧
      (build target job files compiler).files =
        sink.fill (failureBanner ++ diagnostic) files := by
  have hholds := h.holds (Bench.holds_opened hopens.2 compiler)
  rw [build_eq hopens h, hdiagnostic]
  exact ⟨rfl, hholds.files_writeDiagnostic hopens.2 diagnostic⟩

namespace Runner

variable {κ : Type}

end Runner

theorem conduct_unavailable (language : CodeTarget) (job : Job β)
    (bench : Bench (.unavailable β)) :
    ∃ after, Conduct (.code language) job bench
      (.rejected (utf8 (Toolchain.unavailableMessage ++ "\n"))) after :=
  ⟨_, .head (.created rfl) (.head (.compileRejects rfl) (.single (.complained rfl)))⟩

/-- The compiler that stands in when none is configured rejects what it is asked for, whatever the
target. -/
theorem exists_conduct_unavailable (target : Target) (job : Job β)
    (bench : Bench (.unavailable β)) :
    ∃ after, Conduct target job bench
      (.rejected (utf8 (Toolchain.unavailableMessage ++ "\n"))) after := by
  cases target with
  | code language => exact conduct_unavailable language job bench
  | dehydrated =>
    exact ⟨_, .head (.created rfl) (.head (.loadRejects rfl) (.single (.complained rfl)))⟩

/-- A build without a compiler says so, in its outcome and in its output. -/
theorem build_unavailable (target : Target) (hopens : job.OpensOn files path sink)
    (compiler : (Toolchain.unavailable β).State) :
    (build target job files compiler).outcome =
        .error (.failed (.compilation (utf8 (Toolchain.unavailableMessage ++ "\n")))) ∧
      (build target job files compiler).files =
        sink.fill (failureBanner ++ utf8 (Toolchain.unavailableMessage ++ "\n")) files := by
  obtain ⟨after, hconduct⟩ :=
    exists_conduct_unavailable target (job.adjustedTo target) (.opened path files compiler)
  exact build_of_diagnostic hopens hconduct rfl

end ShaderDriver
