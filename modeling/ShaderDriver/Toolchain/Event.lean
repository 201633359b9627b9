import ShaderDriver.Toolchain.Basic

/-!
# ShaderDriver.Toolchain.Event

**What a build does to the outside,** in order: the calls of the compiler with their arguments, what
is written to the artifact, and every file that is opened and released again. The calls are entered
before they answer, so the journal of a build that breaks down ends with the call that did.
-/

namespace ShaderDriver

/-- An entry in the journal of a build. -/
inductive Event {β : Type} (tc : Toolchain β) where
  /-- A path was opened for writing. -/
  | opened (path : String)
  /-- A file that had been opened was closed. -/
  | released (path : String)
  | create (caps : Option β) (permit : Bool)
  | compile (kind : ProgramKind) (text : Bytes) (settings : Settings)
  | emit (language : CodeTarget) (baseName : Option String)
  /-- Something was written to the artifact. -/
  | wrote (data : Bytes)
  /-- The emitter closed its stream, and this was the answer. -/
  | closed (stored : Bool)
  /-- The emitter asked whether its stream is valid, and this was the answer. -/
  | probed (valid : Bool)
  | loadModule (kind : ProgramKind) (path : String)
  | makeDehydrator
  | writeSymbols (symbols : tc.Symbols)
  | writeElements (elements : tc.Elements)
  | finish
  | errorText

end ShaderDriver
