import ShaderDriver.Proofs.Build.Encoding

/-!
# ShaderDriver.Proofs.Build.Delivery

**No artifact is lost silently.** A build succeeds exactly if its output opens, the compiler
conducts the build to an artifact without closing the stream, and the output keeps everything that
was written (`build_of_produced`, `produced_of_build_ok`). A regular file then holds what was written
and nothing else; a dehydrated module was written as one formatted text (`Turns.formats`). Every
other build ends in one of the known failures (`build_error`).
-/

namespace ShaderDriver

variable {β : Type} {tc : Toolchain β} {target : Target} {job : Job β}

/-! ### The text of a module -/

/-- What is laid out is written in one piece. -/
theorem Turns.laidOut {data : Bytes} {bench after : Bench tc}
    (h : Turns target job (.layOut data) bench (.ended .produced) after) :
    ∃ margins s, (tc.margins data.length).answerIn bench.compiler = (.ok margins, s) ∧
      written after.journal = written bench.journal ++
        [Dehydrated.renderElements (baseName job.inputPath "" ".sksl") (margins.zip data)] := by
  cases h with
  | head hturn hrest =>
    cases hturn with
    | marginBreaks =>
      cases hrest with
      | head hturn _ => exact absurd hturn Turn.not_ended
    | @laidOut _ _ margins s hmargins =>
      cases hrest with
      | refl => exact ⟨margins, s, hmargins, Bench.written_wrote _ _⟩
      | head hturn _ => exact absurd hturn Turn.not_ended

variable {files : FileTree} {compiler : tc.State} {path : FilePath} {sink : Sink}

/-- A job opens its output in one way only. -/
theorem Job.OpensOn.unique {other : FilePath} {elsewhere : Sink}
    (h : job.OpensOn files path sink) (hother : job.OpensOn files other elsewhere) :
    other = path ∧ elsewhere = sink := by
  obtain ⟨hpath, hsink⟩ := h
  obtain ⟨hpath', hsink'⟩ := hother
  obtain rfl : path = other := Option.some.inj (hpath.symm.trans hpath')
  exact ⟨rfl, Option.some.inj (hsink'.symm.trans hsink)⟩

/-- What a build with an artifact comes to: the output is closed, and everything depends on that. -/
theorem build_of_produced {after : Bench tc} (hopens : job.OpensOn files path sink)
    (h : Conduct target (job.adjustedTo target) (.opened path files compiler) .produced after) :
    (build target job files compiler).outcome =
        (if emitterClosed after.journal = false ∧ sink.keeps (written after.journal).flatten = true
          then .ok () else .error (.failed (.unwritable job.outputPath))) ∧
      written (build target job files compiler).journal = written after.journal ∧
      (emitterClosed after.journal = false →
        (build target job files compiler).files =
          sink.fill (written after.journal).flatten files) := by
  have hholds := h.holds (Bench.holds_opened hopens.2 compiler)
  obtain ⟨-, content, hfiles, hcontent⟩ := hholds.closeOut
  refine ⟨?_, written_build hopens h, ?_⟩ <;> rw [build_eq hopens h]
  · change (if after.closeOut.1 then _ else _) = _
    rw [hholds.stored_closeOut]
    simp only [Bool.and_eq_true, Bool.not_eq_true']
  · intro hopen
    rw [← hcontent hopen]
    exact hfiles

/-- A build that succeeds has an artifact. -/
theorem produced_of_build_ok (h : (build target job files compiler).outcome = .ok ()) :
    ∃ path sink after, job.OpensOn files path sink ∧
      Conduct target (job.adjustedTo target) (.opened path files compiler) .produced after := by
  obtain hopens | ⟨path, sink, ending, after, hopens, hconduct⟩ :=
    opens_cases target job files compiler
  · rw [outcome_build_of_not_opens hopens] at h
    cases h
  · rw [build_eq hopens hconduct] at h
    cases ending with
    | produced => exact ⟨path, sink, after, hopens, hconduct⟩
    | rejected diagnostics => cases h
    | brokeDown crash => cases h

/-- The ways in which a build does not succeed. -/
theorem build_error (target : Target) (job : Job β) (files : FileTree) (compiler : tc.State)
    (h : (build target job files compiler).outcome ≠ .ok ()) :
    (∃ diagnostic, (build target job files compiler).outcome =
        .error (.failed (.compilation diagnostic))) ∨
      (build target job files compiler).outcome = .error (.failed (.unwritable job.outputPath)) ∨
      ((build target job files compiler).outcome = .error (.escaped .nullInPath) ∧
        '\x00' ∈ job.outputPath.toList) := by
  obtain hopens | ⟨path, sink, ending, after, hopens, hconduct⟩ :=
    opens_cases target job files compiler
  · rw [outcome_build_of_not_opens hopens]
    split
    · rename_i hnull
      exact .inr (.inr ⟨rfl, hnull⟩)
    · exact .inr (.inl rfl)
  · rw [build_eq hopens hconduct] at h ⊢
    cases hdiagnostic : ending.diagnostic? with
    | some diagnostic => exact .inl ⟨diagnostic, rfl⟩
    | none =>
      -- There is an artifact, so it is the last closing of the output that has failed.
      rw [hdiagnostic] at h
      refine .inr (.inl ?_)
      simp only [Bench.finish] at h ⊢
      split at h
      · exact absurd rfl h
      · rename_i hstored
        rw [if_neg hstored]

/-- The compiler for which every source text is a program, and the program its own code. -/
def Toolchain.verbatim (β : Type) : Toolchain β where
  State := Unit
  Program := Bytes
  Symbols := Unit
  Elements := Unit
  create _ _ := pure ()
  compile _ text _ := pure (some text)
  emit _ program _ state := .write program (.finish (.ok true) state)
  loadModule _ _ := pure none
  makeDehydrator := pure ()
  writeSymbols _ := pure ()
  writeElements _ := pure ()
  finish := pure []
  marginAt _ := pure []
  errorText := pure []

end ShaderDriver
