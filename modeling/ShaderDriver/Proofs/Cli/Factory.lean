import ShaderDriver.Proofs.Cli.Tracing
import ShaderDriver.Proofs.Config.Resolution

/-!
# ShaderDriver.Proofs.Cli.Factory

**A factory is found where its name says, or nothing is run.** Loading a factory succeeds exactly if
its name resolves, and fails with the first fault that the name has. The environment is read before
anything else, so a run whose factory has a fault prints that fault and does nothing at all.
-/

namespace ShaderDriver

/-- An environment that names a factory is faulty if the name is. -/
theorem Config.load_of_faulty {φ : Type} {modules : ModuleTable φ} {environment : Environment}
    {spec : String} {fault : Fault} (hspec : environment.lookup compilerVariable = some spec)
    (hne : spec ≠ "") (hfaulty : Faulty modules spec fault) :
    load modules environment = .error fault := by
  have hload := loadFactory_eq_error_iff.mpr hfaulty
  unfold load
  rw [hspec]
  split
  · rename_i hnone
    cases hnone
  · rename_i hempty
    exact absurd (Option.some.inj hempty) hne
  · rename_i hother
    obtain rfl := Option.some.inj hother
    rw [hload]

namespace Cli

variable {φ : Type} {compilers : Compilers φ}

namespace Run

/-- The jobs that have been run. -/
def jobs : Run compilers → List (List String)
  | refused _ _ => []
  | completed _ log _ => log.entries.map Batch.Entry.args

/-- How many compilers have been created. -/
def creations : Run compilers → Nat
  | refused _ _ => 0
  | completed _ log _ => (log.entries.flatMap Batch.Entry.detail).countP Event.isCreate

end Run

/-- **A factory is found where its name says, or nothing is run.** Loading a factory gives the one
that its name resolves to, which is one that can be called and is reached from an importable module
through attributes that hold something. A name that does not resolve is refused, for the first of the
faults of form, import, attribute and call that it has. In an environment with such a name, which is
not empty, the program prints just that fault and ends in an input error; it runs no job, creates no
compiler and changes no file. -/
theorem factory_resolution (modules : Config.ModuleTable φ) (spec : String) :
    (∀ factory, Config.loadFactory modules spec = .ok factory ↔
      Config.Resolves modules spec factory) ∧
    (∀ fault, Config.loadFactory modules spec = .error fault ↔ Config.Faulty modules spec fault) ∧
    ((∀ factory, ¬ Config.Resolves modules spec factory) →
      ∃ fault, Config.Faulty modules spec fault) ∧
    ∀ (compilers : Compilers φ) (environment : Config.Environment) (fault : Config.Fault),
      compilers.modules = modules → environment.lookup Config.compilerVariable = some spec →
      spec ≠ "" → Config.Faulty modules spec fault →
      ∀ (argv : List String) (files : FileTree),
        (run compilers argv environment files).printed =
            utf8 ("skslc: " ++ fault.message ++ "\n") ∧
          (run compilers argv environment files).verdict = .ok .inputError ∧
          (run compilers argv environment files).jobs = [] ∧
          (run compilers argv environment files).creations = 0 ∧
          (run compilers argv environment files).files = files := by
  refine ⟨fun _ => Config.loadFactory_eq_ok_iff, fun _ => Config.loadFactory_eq_error_iff, ?_, ?_⟩
  · intro hunresolved
    obtain ⟨factory, -, hresolves⟩ | ⟨fault, -, hfaulty⟩ := Config.loadFactory_cases modules spec
    · exact absurd hresolves (hunresolved factory)
    · exact ⟨fault, hfaulty⟩
  · rintro compilers environment fault rfl hspec hne hfaulty argv files
    rw [run_of_fault compilers argv files (Config.load_of_faulty hspec hne hfaulty)]
    exact ⟨rfl, rfl, rfl, rfl, rfl⟩

/-- A package of which one attribute has attributes itself, one of them without a value. -/
def nestedCompilers : Compilers Unit where
  modules := [{
    name := "shaders"
    isPackage := true
    attributes := [("tools", .object none [("make", .object (some ()) []), ("gone", .nothing)])] }]
  toolchain _ := .verbatim Caps
  start _ := ()

theorem factory_resolution_nested :
    Config.Resolves nestedCompilers.modules "shaders:tools.make" () ∧
      Config.Faulty nestedCompilers.modules "shaders:tools.gone"
        (.missingAttribute "shaders" "tools.gone") ∧
      (run nestedCompilers ["skslc"] [("SKSLC_COMPILER", "shaders:tools.gone")] {}).printed =
        utf8 "skslc: 'shaders' has no attribute 'tools.gone'\n" ∧
      (run nestedCompilers ["skslc"] [("SKSLC_COMPILER", "shaders:tools.gone")] {}).jobs = [] := by
  obtain ⟨hresolves, -⟩ := factory_resolution nestedCompilers.modules "shaders:tools.make"
  obtain ⟨-, hfaulty, -, hrun⟩ := factory_resolution nestedCompilers.modules "shaders:tools.gone"
  have hgone := (hfaulty (.missingAttribute "shaders" "tools.gone")).mp rfl
  obtain ⟨hprinted, -, hjobs, -⟩ := hrun nestedCompilers
    [("SKSLC_COMPILER", "shaders:tools.gone")] _ rfl rfl (by decide) hgone ["skslc"] {}
  exact ⟨(hresolves ()).mp rfl, hgone, hprinted, hjobs⟩

end Cli

end ShaderDriver
