import ShaderDriver.Proofs.Path.Endings
import ShaderDriver.Runner

/-!
# ShaderDriver.Proofs.Runner.Recognition

**Which argument lists are commands that can be carried out.** An argument list is recognized if it
has the shape of a command and both of its paths have known endings (`Command.Recognizes`). These
are the first checks of a job, and they look at the arguments alone.
-/

namespace ShaderDriver.Command

variable {args : List String} {command : Command} {kind : ProgramKind} {target : Target}

/-- The argument lists that have the shape of a command. -/
inductive Shape : List String → Command → Prop
  | plain (program input output : String) :
    Shape [program, input, output] { input, output, honorsPragma := true }
  | settings (program input output : String) :
    Shape [program, input, output, "--settings"] { input, output, honorsPragma := true }
  | nosettings (program input output : String) :
    Shape [program, input, output, "--nosettings"] { input, output, honorsPragma := false }

theorem honorsPragma?_eq_some_iff {flag : String} {honors : Bool} :
    honorsPragma? flag = some honors ↔
      flag = "--settings" ∧ honors = true ∨ flag = "--nosettings" ∧ honors = false := by
  unfold honorsPragma?
  split
  · rename_i hflag
    simp [hflag, eq_comm]
  · split
    · rename_i hflag
      simp [hflag, eq_comm]
    · simp [*]

/-- What is read from an argument list is what its shape says. -/
theorem ofArgs_eq_ok_iff : ofArgs args = .ok command ↔ Shape args command := by
  constructor
  · intro h
    unfold ofArgs at h
    split at h
    · obtain rfl := Except.ok.inj h
      exact .plain _ _ _
    · split at h
      · rename_i hflag
        obtain rfl := Except.ok.inj h
        obtain ⟨rfl, rfl⟩ | ⟨rfl, rfl⟩ := honorsPragma?_eq_some_iff.mp hflag
        · exact .settings _ _ _
        · exact .nosettings _ _ _
      · cases h
    · cases h
  · rintro (⟨⟩ | ⟨⟩ | ⟨⟩) <;> rfl

/-- The parts of an argument list that make a command. -/
theorem ofArgs_eq_ok (h : ofArgs args = .ok command) :
    args[1]? = some command.input ∧ args[2]? = some command.output ∧
      (command.honorsPragma = false ↔ args[3]? = some "--nosettings") := by
  cases ofArgs_eq_ok_iff.mp h <;> simp

/-- A command is planned if both of its paths are of a known kind. -/
theorem plan_eq_ok_iff :
    command.plan = .ok (kind, target) ↔
      ProgramKind.ofPath command.input = .ok kind ∧ Target.ofPath command.output = .ok target := by
  simp only [plan, bind, Except.bind, pure, Except.pure]
  cases ProgramKind.ofPath command.input <;> cases Target.ofPath command.output <;> simp

/-- An argument list has the shape of a command, and the endings of its paths are known. -/
structure Recognizes (args : List String) (command : Command) (kind : ProgramKind)
    (target : Target) : Prop where
  shape : Shape args command
  kind : ∃ extension, (extension, kind) ∈ ProgramKind.extensions ∧
    endsWith command.input extension = true
  target : endsWith command.output target.ending = true

/-- The argument lists that pass the first checks are the recognized ones. -/
theorem recognizes_iff :
    Recognizes args command kind target ↔
      ofArgs args = .ok command ∧ command.plan = .ok (kind, target) := by
  rw [ofArgs_eq_ok_iff, plan_eq_ok_iff, ProgramKind.ofPath_eq_ok_iff, Target.ofPath_eq_ok_iff]
  constructor
  · rintro ⟨hshape, hkind, htarget⟩
    exact ⟨hshape, hkind, htarget⟩
  · rintro ⟨hshape, hkind, htarget⟩
    exact ⟨hshape, hkind, htarget⟩

theorem not_recognizes_of_refusal {refusal : Refusal} (h : ofArgs args = .error refusal) :
    ¬ Recognizes args command kind target := by
  intro hrecognizes
  cases h.symm.trans (recognizes_iff.mp hrecognizes).1

theorem not_recognizes_of_plan {failure : Failure} (hargs : ofArgs args = .ok command)
    (hplan : command.plan = .error failure) {other : Command} :
    ¬ Recognizes args other kind target := by
  intro hrecognizes
  obtain ⟨hother, hplan'⟩ := recognizes_iff.mp hrecognizes
  obtain rfl := Except.ok.inj (hother.symm.trans hargs)
  cases hplan.symm.trans hplan'

end ShaderDriver.Command
