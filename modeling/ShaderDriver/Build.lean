import ShaderDriver.Dehydrated
import ShaderDriver.OutputStream
import ShaderDriver.Toolchain.Codec
import ShaderDriver.Toolchain.Event

/-!
# ShaderDriver.Build

**Producing one artifact.** `build` opens the output, has the compiler fill it, and closes it. Three
things can be the result:

* the artifact: the compiler succeeded and the output took everything that was written;
* a diagnosis: something was rejected or broke down. The artifact is then closed and replaced by a
  banner and the diagnostic, so that no partial output is left, and the job fails to compile whether
  or not the diagnostic could be stored;
* an output that could not be opened, in which case the compiler is not created at all, or that did
  not take everything.

A collaborator that breaks down fails this job only: its complaint becomes the diagnostic. The one
exception is a diagnostic that cannot be encoded. It is found out when the banner stands in the
output already, and ends the job without a result code.
-/

namespace ShaderDriver

/-- All that a target needs for producing one output file. -/
structure Job (β : Type) where
  kind : ProgramKind
  text : Bytes
  settings : Settings
  caps : Option β
  inputPath : String
  outputPath : String

variable {β : Type} {tc : Toolchain β}

/-! ### The workbench -/

/-- What a build works on, once its output has been opened. -/
structure Bench (tc : Toolchain β) where
  files : FileTree
  /-- The stream that the artifact goes to. -/
  out : OutputStream
  compiler : tc.State
  journal : List (Event tc)

namespace Bench

/-- Enters an event in the journal. -/
def note (event : Event tc) (bench : Bench tc) : Bench tc :=
  { bench with journal := bench.journal ++ [event] }

/-- Opens a path and makes it the stream that is written to. -/
def openOut (path : FilePath) (bench : Bench tc) : Bench tc :=
  let (out, files) := OutputStream.openPath path bench.files
  let bench := { bench with out, files }
  if out.isValid then bench.note (.opened path.text) else bench

/-- Closes the stream. The answer is whether everything written has been stored. -/
def closeOut (bench : Bench tc) : Bool × Bench tc :=
  let isOpen := bench.out.sink.isSome
  let (stored, out, files) := bench.out.close bench.files
  let bench := { bench with out, files }
  (stored, if isOpen then bench.note (.released out.path) else bench)

/-- Writes to the stream. -/
def write (data : Bytes) (bench : Bench tc) : Bench tc :=
  let (out, files) := bench.out.write data bench.files
  { bench with out, files }

end Bench

/-! ### Calling the compiler -/

/-- A step of a build that may break down. -/
abbrev Step (tc : Toolchain β) (α : Type) : Type := ExceptT Crash (StateM (Bench tc)) α

namespace Step

/-- Makes a step of a function on the bench. -/
def ofBench {α : Type} (f : Bench tc → Except Crash α × Bench tc) : Step tc α := f

/-- Takes a step from a bench. -/
def runOn {α : Type} (step : Step tc α) (bench : Bench tc) : Except Crash α × Bench tc := step bench

/-- A call of the compiler that is not entered in the journal. -/
def quietly {α : Type} (call : Call tc.State α) : Step tc α :=
  ofBench fun bench =>
    let (answer, compiler) := call bench.compiler
    (answer, { bench with compiler })

/-- A call of the compiler. -/
def call {α : Type} (event : Event tc) (call : Call tc.State α) : Step tc α := do
  modify (Bench.note event)
  quietly call

/-- Writes to the artifact. -/
def write (data : Bytes) : Step tc Unit :=
  modify fun bench => (bench.note (.wrote data)).write data

/-- Does with the stream what an emitter does. -/
def emission : Emission tc.State → Step tc Bool
  | .finish answer compiler => ofBench fun bench => (answer, { bench with compiler })
  | .write data next => do
    write data
    emission next
  | .close next => ofBench fun bench =>
    let (stored, bench) := bench.closeOut
    emission (next stored) (bench.note (.closed stored))
  | .probe next => ofBench fun bench =>
    let valid := bench.out.isValid
    emission (next valid) (bench.note (.probed valid))

/-! How the steps act on a bench. -/

@[simp] theorem runOn_pure {α : Type} (a : α) (bench : Bench tc) :
    (pure a : Step tc α).runOn bench = (.ok a, bench) := rfl

theorem runOn_bind {α γ : Type} (step : Step tc α) (next : α → Step tc γ) (bench : Bench tc) :
    (step >>= next).runOn bench =
      match step.runOn bench with
      | (.ok a, bench) => (next a).runOn bench
      | (.error crash, bench) => (.error crash, bench) := by
  simp only [runOn, bind, ExceptT.bind, ExceptT.mk, ExceptT.bindCont, StateT.bind]
  rcases step bench with ⟨crash | a, after⟩ <;> rfl

@[simp] theorem runOn_quietly {α : Type} (c : Call tc.State α) (bench : Bench tc) :
    (quietly c).runOn bench =
      ((c bench.compiler).1, { bench with compiler := (c bench.compiler).2 }) := rfl

@[simp] theorem runOn_call {α : Type} (event : Event tc) (c : Call tc.State α) (bench : Bench tc) :
    (call event c).runOn bench =
      ((c bench.compiler).1, { bench.note event with compiler := (c bench.compiler).2 }) := rfl

@[simp] theorem runOn_write (data : Bytes) (bench : Bench tc) :
    (write data).runOn bench = (.ok (), (bench.note (.wrote data)).write data) := rfl

@[simp] theorem runOn_emission_finish (answer : Except Crash Bool) (compiler : tc.State)
    (bench : Bench tc) :
    (emission (.finish answer compiler)).runOn bench = (answer, { bench with compiler }) := rfl

@[simp] theorem runOn_emission_write (data : Bytes) (next : Emission tc.State) (bench : Bench tc) :
    (emission (.write data next)).runOn bench =
      (emission next).runOn ((bench.note (.wrote data)).write data) := rfl

@[simp] theorem runOn_emission_close (next : Bool → Emission tc.State) (bench : Bench tc) :
    (emission (.close next)).runOn bench =
      (emission (next bench.closeOut.1)).runOn
        (bench.closeOut.2.note (.closed bench.closeOut.1)) := rfl

@[simp] theorem runOn_emission_probe (next : Bool → Emission tc.State) (bench : Bench tc) :
    (emission (.probe next)).runOn bench =
      (emission (next bench.out.isValid)).runOn (bench.note (.probed bench.out.isValid)) := rfl

/-! ### Producing an artifact -/

/-- Compiles the program of a job and writes it out. The answer is whether there is an artifact. -/
def produceCode (language : CodeTarget) (job : Job β) : Step tc Bool := do
  let program? ← call (.compile job.kind job.text job.settings)
    (tc.compile job.kind job.text job.settings)
  match program? with
  | none => return false
  | some program =>
    let name := language.baseName? job.inputPath
    modify (Bench.note (.emit language name))
    ofBench fun bench => emission (tc.emit language program name bench.compiler) bench

/-- Dehydrates the module of a job and writes it out. The answer is whether there is an artifact. -/
def produceModule (job : Job β) : Step tc Bool := do
  let module? ← call (.loadModule job.kind job.inputPath) (tc.loadModule job.kind job.inputPath)
  match module? with
  | none => return false
  | some (symbols, elements) =>
    call .makeDehydrator tc.makeDehydrator
    call (.writeSymbols symbols) (tc.writeSymbols symbols)
    call (.writeElements elements) (tc.writeElements elements)
    let data ← call .finish tc.finish
    let margins ← (List.range data.length).mapM fun offset => quietly (tc.marginAt offset)
    write (Dehydrated.renderElements (baseName job.inputPath "" ".sksl") (margins.zip data))
    return true

/-- Produces the artifact of a job. The answer is whether there is one. -/
def produce (target : Target) (job : Job β) : Step tc Bool :=
  match target with
  | .code language => produceCode language job
  | .dehydrated => produceModule job

/-- Creates a compiler and produces the artifact of a job; if there is none, the answer is the
compiler's diagnostics. -/
def attempt (target : Target) (job : Job β) : Step tc (Option Bytes) := do
  call (.create job.caps target.permitsInvalidStaticTests)
    (tc.create job.caps target.permitsInvalidStaticTests)
  if ← produce target job then
    return none
  else
    return some (← call .errorText tc.errorText)

end Step

/-! ### The whole build -/

/-- What stands in front of the diagnostic in the output of a failed compilation. -/
def failureBanner : Bytes := utf8 "### Compilation failed:\n\n"

/-- What a build comes to. -/
structure Built (tc : Toolchain β) where
  outcome : Except Stop Unit
  /-- The settings of the job after the build. -/
  settings : Settings
  files : FileTree
  compiler : tc.State
  journal : List (Event tc)

/-- The diagnostic of an attempt that yields no artifact; none if there is one. -/
def Bench.diagnose (target : Target) (job : Job β) (bench : Bench tc) : Option Bytes × Bench tc :=
  match (Step.attempt target job).runOn bench with
  | (.ok diagnostic, bench) => (diagnostic, bench)
  | (.error crash, bench) => (some (crash.message ++ [newline]), bench)

/-- Replaces what the output holds by a diagnostic, which is taken to have an encoding. -/
def Bench.writeDiagnostic (path : FilePath) (diagnostic : Bytes) (bench : Bench tc) : Bench tc :=
  let bench := bench.closeOut.2.openOut path
  ((bench.write failureBanner).write diagnostic).closeOut.2

/-- Replaces what the output holds by the banner, when the diagnostic turns out to have no encoding.
The stream is not closed; what it has kept back is stored when it is let go of. -/
def Bench.abandonDiagnostic (path : FilePath) (bench : Bench tc) : Bench tc :=
  let bench := (bench.closeOut.2.openOut path).write failureBanner
  { bench with files := bench.out.settled bench.files }

/-- Ends a build. -/
def Bench.finish (bench : Bench tc) (outcome : Except Stop Unit) (settings : Settings) :
    Built tc where
  outcome
  settings
  files := bench.files
  compiler := bench.compiler
  journal := bench.journal

/-- Produces the artifact of a job at its output path. -/
def buildWith (codec : Codec tc) (target : Target) (job : Job β) (files : FileTree)
    (compiler : tc.State) : Built tc :=
  let idle : Bench tc :=
    { files, out := .unopened job.outputPath, compiler, journal := [] }
  match FilePath.ofString? job.outputPath with
  | none => idle.finish (.error (.escaped .nullInPath)) job.settings
  | some path =>
    let bench := idle.openOut path
    if !bench.out.isValid then
      bench.finish (.error (.failed (.unwritable job.outputPath))) job.settings
    else
      let job := { job with settings := target.adjust job.settings }
      match bench.diagnose target job with
      | (some diagnostic, bench) =>
        match codec.unencodable? bench.compiler diagnostic with
        | some complaint =>
          (bench.abandonDiagnostic path).finish (.error (.escaped (.unencodable complaint)))
            job.settings
        | none =>
          (bench.writeDiagnostic path diagnostic).finish
            (.error (.failed (.compilation diagnostic))) job.settings
      | (none, bench) =>
        let (stored, bench) := bench.closeOut
        bench.finish
          (if stored then .ok () else .error (.failed (.unwritable job.outputPath))) job.settings

/-- Produces the artifact of a job, where every diagnostic can be encoded. -/
def build (target : Target) (job : Job β) (files : FileTree) (compiler : tc.State) : Built tc :=
  buildWith .total target job files compiler

end ShaderDriver
