import ShaderDriver.Proofs.Build.Delivery
import ShaderDriver.Proofs.Build.Uniform

/-!
# ShaderDriver.Proofs.Build.Footprint

**What a build changes.** If its output does not open, nothing (`build_of_not_opens`). If it does,
the build fills the sink that was opened with some content, be it the artifact, what an emitter had
written before it closed the stream, or a diagnostic (`exists_files_build`). So no other location
changes, and no directory comes or goes.
-/

namespace ShaderDriver

variable {β : Type} {tc : Toolchain β} {job : Job β} {files : FileTree} {path : FilePath}
  {sink : Sink}

theorem Job.OpensOn.text_eq (h : job.OpensOn files path sink) : path.text = job.outputPath :=
  FilePath.text_of_ofString? h.1

/-- A build whose output opens does nothing to the files but to fill it. -/
theorem exists_files_build (target : Target) (compiler : tc.State)
    (hopens : job.OpensOn files path sink) :
    ∃ content, (build target job files compiler).files = sink.fill content files := by
  obtain ⟨built, content, hbuild⟩ := build_uniform target job compiler path sink
  rw [hbuild files hopens]
  exact ⟨content, rfl⟩

/-- A build whose output opens is not refused any more. -/
theorem outcome_build_of_opens (target : Target) (compiler : tc.State)
    (hopens : job.OpensOn files path sink) :
    (build target job files compiler).outcome = .ok () ∨
      (∃ diagnostic, (build target job files compiler).outcome =
        .error (.failed (.compilation diagnostic))) ∨
      (build target job files compiler).outcome = .error (.failed (.unwritable job.outputPath)) := by
  by_cases hok : (build target job files compiler).outcome = .ok ()
  · exact .inl hok
  · obtain hfailed | hunwritable | ⟨-, hnull⟩ := build_error target job files compiler hok
    · exact .inr (.inl hfailed)
    · exact .inr (.inr hunwritable)
    · have hpath := FilePath.ofString?_eq_none_iff.mpr hnull
      rw [hopens.1] at hpath
      cases hpath

variable (target : Target) (job : Job β) (files : FileTree) (compiler : tc.State)

/-- A build leaves every location alone but that of its output. -/
theorem node?_build {location : Location}
    (hne : Location.ofPath? job.outputPath ≠ some location) :
    (build target job files compiler).files.node? location = files.node? location := by
  obtain hopens | ⟨path, sink, -, -, hopens, -⟩ := opens_cases target job files compiler
  · rw [build_of_not_opens hopens]
  · obtain ⟨content, hfiles⟩ := exists_files_build target compiler hopens
    rw [hfiles]
    exact Sink.node?_fill hopens.2 content (by rwa [hopens.text_eq])

/-- A build makes and removes no directory. -/
theorem isDirectory_build :
    (build target job files compiler).files.isDirectory = files.isDirectory := by
  obtain hopens | ⟨path, sink, -, -, hopens, -⟩ := opens_cases target job files compiler
  · rw [build_of_not_opens hopens]
  · obtain ⟨content, hfiles⟩ := exists_files_build target compiler hopens
    rw [hfiles]
    exact Sink.isDirectory_fill hopens.2 content

end ShaderDriver
