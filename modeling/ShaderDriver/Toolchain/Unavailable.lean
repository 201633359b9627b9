import ShaderDriver.Toolchain.Basic

/-!
# ShaderDriver.Toolchain.Unavailable

**The compiler that stands in when none is configured.** It rejects every program and every module,
so no job can succeed with it, and its diagnostic says how to configure a compiler.
-/

namespace ShaderDriver.Toolchain

/-- What the diagnostic says. -/
def unavailableMessage : String :=
  "no SkSL compiler backend is configured; set SKSLC_COMPILER=<module>:<factory>"

/-- The compiler that rejects everything. It remembers what it was created for. -/
def unavailable (β : Type) : Toolchain β where
  State := Option (Option β × Bool)
  Program := Unit
  Symbols := Unit
  Elements := Unit
  create caps permit := set (some (caps, permit))
  compile _ _ _ := pure none
  emit _ _ _ state := .finish (.ok false) state
  loadModule _ _ := pure none
  makeDehydrator := throw ⟨utf8 unavailableMessage⟩
  writeSymbols _ := pure ()
  writeElements _ := pure ()
  finish := pure []
  marginAt _ := pure []
  errorText := pure (utf8 (unavailableMessage ++ "\n"))

end ShaderDriver.Toolchain
