import ShaderDriver.Batch.Run
import ShaderDriver.Config.Load
import ShaderDriver.Runner
import ShaderDriver.Toolchain.Unavailable

/-!
# ShaderDriver.Cli

**The whole program.** The environment configures the run, the command line gives its jobs, and the
worst outcome is the exit status. All jobs share one cache of capability bundles. An environment
that cannot be used is reported, and no job is run.
-/

namespace ShaderDriver

/-- The version of the program. -/
def version : String := "0.1.0"

namespace Runner

variable {β κ : Type} {tc : Toolchain β}

/-- Runs a command as a job of a batch; the detail kept of it is its journal. -/
def batchJobWith (codec : Codec tc) (runner : Runner β κ) (args : List String)
    (workspace : Workspace tc κ) : Batch.Reply Escape (List (Event tc)) × Workspace tc κ :=
  let (report, workspace) := runner.runWith codec args workspace
  ({ outcome := report.outcome.map (Int.ofNat ·.severity)
     printed := report.printed
     detail := report.journal }, workspace)

/-- Runs every job on a command line. -/
def runBatchWith (codec : Codec tc) (runner : Runner β κ) (argv : List String)
    (workspace : Workspace tc κ) : Batch.Log Escape (List (Event tc)) × Workspace tc κ :=
  Batch.run (runner.batchJobWith codec) argv workspace

/-- Runs a command as a job of a batch, where every text can be encoded. -/
def batchJob (runner : Runner β κ) (args : List String) (workspace : Workspace tc κ) :
    Batch.Reply Escape (List (Event tc)) × Workspace tc κ :=
  runner.batchJobWith .total args workspace

/-- Runs every job on a command line, where every text can be encoded. -/
def runBatch (runner : Runner β κ) (argv : List String) (workspace : Workspace tc κ) :
    Batch.Log Escape (List (Event tc)) × Workspace tc κ :=
  runner.runBatchWith .total argv workspace

/-- The job of a batch is a run, of which the severity of the result code is kept. -/
theorem batchJob_eq (runner : Runner β κ) (args : List String) (workspace : Workspace tc κ) :
    runner.batchJob args workspace =
      ({ outcome := (runner.run args workspace).1.outcome.map (Int.ofNat ·.severity)
         printed := (runner.run args workspace).1.printed
         detail := (runner.run args workspace).1.journal }, (runner.run args workspace).2) := rfl

theorem runBatch_eq (runner : Runner β κ) (argv : List String) (workspace : Workspace tc κ) :
    runner.runBatch argv workspace = Batch.run runner.batchJob argv workspace := rfl

end Runner

namespace Cli

/-- The compilers that a run can be configured with. -/
structure Compilers (φ : Type) where
  /-- Where factories are loaded from. -/
  modules : Config.ModuleTable φ
  /-- The compiler that a factory makes. -/
  toolchain : φ → Toolchain Caps
  /-- The state it starts in. -/
  start : (factory : φ) → (toolchain factory).State

namespace Compilers

variable {φ : Type}

/-- The compiler of a configuration; the one that rejects everything if none is configured. -/
def toolchainOf (compilers : Compilers φ) : Option φ → Toolchain Caps
  | none => .unavailable Caps
  | some factory => compilers.toolchain factory

/-- The state that the compiler of a configuration starts in. -/
def startOf (compilers : Compilers φ) :
    (factory : Option φ) → (compilers.toolchainOf factory).State
  | none => (none : Option (Option Caps × Bool))
  | some factory => compilers.start factory

end Compilers

/-- What a run comes to. -/
inductive Run {φ : Type} (compilers : Compilers φ) where
  /-- The environment cannot be used. -/
  | refused (fault : Config.Fault) (files : FileTree)
  /-- The jobs have been run. -/
  | completed (options : Config.Options φ)
      (log : Batch.Log Escape (List (Event (compilers.toolchainOf options.factory))))
      (files : FileTree)

namespace Run

variable {φ : Type} {compilers : Compilers φ}

/-- The outcome of a run, unless something stopped its batch. -/
def verdict : Run compilers → Except (Batch.Fault Escape) ResultCode
  | refused _ _ => .ok .inputError
  | completed _ log _ => log.verdict

/-- What a run printed. Standard output is taken to print the message of a fault. -/
def printed : Run compilers → Bytes
  | refused fault _ => utf8 ("skslc: " ++ fault.message ++ "\n")
  | completed options log _ => log.printed options.debug

/-- The files after a run. -/
def files : Run compilers → FileTree
  | refused _ files | completed _ _ files => files

end Run

/-- Runs a whole command line in an environment. -/
def runWith {φ : Type} (compilers : Compilers φ)
    (codec : (factory : Option φ) → Codec (compilers.toolchainOf factory)) (argv : List String)
    (environment : Config.Environment) (files : FileTree) : Run compilers :=
  match Config.load compilers.modules environment with
  | .error fault => .refused fault files
  | .ok options =>
    let runner : Runner Caps Unit := { makeCaps := .named, debug := options.debug }
    let workspace : Workspace (compilers.toolchainOf options.factory) Unit :=
      { files, cache := { factory := () }, compiler := compilers.startOf options.factory }
    let (log, workspace) := runner.runBatchWith (codec options.factory) argv workspace
    .completed options log workspace.files

/-- Runs a whole command line in an environment, where every text can be encoded. -/
def run {φ : Type} (compilers : Compilers φ) (argv : List String) (environment : Config.Environment)
    (files : FileTree) : Run compilers :=
  runWith compilers (fun _ => .total) argv environment files

end Cli

end ShaderDriver
