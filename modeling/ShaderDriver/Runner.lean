import ShaderDriver.Build
import ShaderDriver.Command
import ShaderDriver.Pragma.Detect

/-!
# ShaderDriver.Runner

**Running one command.** A job passes these checks, in this order, and stops at the first that
fails: the shape of the command, the extension of the input, the ending of the output, the input can
be read, its settings comment is accepted. Only then is the output opened and a compiler created. So
a job that is refused has changed no file and created no compiler, which the types show: `plan` sees
neither files nor compiler, and `prepare` changes nothing but the cache of capability bundles.
-/

namespace ShaderDriver

variable {β κ : Type} {tc : Toolchain β}

/-- What jobs share and change: the files, the cache of capability bundles, and the compiler. -/
structure Workspace (tc : Toolchain β) (κ : Type) where
  files : FileTree
  cache : CapsCache β κ
  compiler : tc.State

/-- What is seen of a job. That standard output takes what is printed is an assumption, which a job
with a `Codec` does not make. -/
structure JobReport (tc : Toolchain β) where
  outcome : Except Escape ResultCode
  /-- What the job printed. -/
  printed : Bytes
  /-- What the job did to the outside. -/
  journal : List (Event tc)

/-! ### Checks -/

/-- The kind of program and the target of a command, by the endings of its paths. -/
def Command.plan (command : Command) : Except Failure (ProgramKind × Target) := do
  let kind ← ProgramKind.ofPath command.input
  let target ← Target.ofPath command.output
  return (kind, target)

/-- The line that traces a job. -/
def Command.traceLine (command : Command) (kind : ProgramKind) (target : Target) : Bytes :=
  utf8 ("skslc: " ++ command.input ++ " -> " ++ command.output ++
    " (" ++ kind.name ++ ", " ++ target.name ++ ")\n")

/-- The source in a file. -/
def readSource (files : FileTree) (path : String) : Except Stop Bytes :=
  match FilePath.ofString? path with
  | none => .error (.escaped .nullInPath)
  | some filePath =>
    match files.read? filePath with
    | none => .error (.failed (.unreadable path))
    | some source => .ok source

/-- Lets the settings comment of a source act, if it is to be honoured. -/
def configure (make : CapsFactory β κ) (honorsPragma : Bool) (source : Bytes)
    (selection : Pragma.Selection β κ) : Except Stop Unit × Pragma.Selection β κ :=
  if honorsPragma then Pragma.detect make source selection else (.ok (), selection)

/-- Reads the source of a command and settles how it is compiled. -/
def prepare (make : CapsFactory β κ) (command : Command) (kind : ProgramKind) (files : FileTree)
    (cache : CapsCache β κ) : Except Stop (Job β) × CapsCache β κ :=
  match readSource files command.input with
  | .error stop => (.error stop, cache)
  | .ok text =>
    match cache.standalone make with
    | (.error crash, cache) => (.error (.escaped (.crash crash)), cache)
    | (.ok caps, cache) =>
      match configure make command.honorsPragma text { settings := {}, caps, cache } with
      | (.error stop, selection) => (.error stop, selection.cache)
      | (.ok (), selection) =>
        (.ok {
          kind
          text
          settings := selection.settings
          caps := selection.caps
          inputPath := command.input
          outputPath := command.output }, selection.cache)

/-! ### The whole job -/

/-- The report of a job: a failure is printed, on lines of its own, and gives the result code. -/
def JobReport.ofOutcome (outcome : Except Stop Unit) (traced : Bytes) (journal : List (Event tc)) :
    JobReport tc :=
  match outcome with
  | .ok () => { outcome := .ok .success, printed := traced, journal }
  | .error (.failed failure) =>
    { outcome := .ok failure.resultCode
      printed := traced ++ closeLine failure.report.text
      journal }
  | .error (.escaped escape) => { outcome := .error escape, printed := traced, journal }

/-- The report of a job that ends with the complaint of standard output about a text. -/
def JobReport.interrupted (complaint : Crash) (printed : Bytes) (journal : List (Event tc)) :
    JobReport tc where
  outcome := .error (.unencodable complaint)
  printed
  journal

/-- The report of a job that fails with a message which standard output may not take. -/
def JobReport.ofOutcomeWith (codec : Codec tc) (outcome : Except Stop Unit) (traced : Bytes)
    (journal : List (Event tc)) : JobReport tc :=
  match outcome with
  | .error (.failed failure) =>
    match codec.unprintable? failure.report.text with
    | some complaint => .interrupted complaint traced journal
    | none => .ofOutcome outcome traced journal
  | _ => .ofOutcome outcome traced journal

@[simp] theorem JobReport.ofOutcomeWith_total (outcome : Except Stop Unit) (traced : Bytes)
    (journal : List (Event tc)) :
    ofOutcomeWith .total outcome traced journal = ofOutcome outcome traced journal := by
  rcases outcome with (_ | _) | _ <;> rfl

/-- How jobs are run: with which source of capability bundles, and whether each is traced. -/
structure Runner (β κ : Type) where
  makeCaps : CapsFactory β κ
  debug : Bool := false

namespace Runner

/-- What a job prints before anything else: the line that traces it, if the runner traces. -/
def traced (runner : Runner β κ) (command : Command) (kind : ProgramKind) (target : Target) :
    Bytes :=
  if runner.debug then command.traceLine kind target else []

/-- Runs a command of the right shape. -/
def executeWith (codec : Codec tc) (runner : Runner β κ) (command : Command)
    (workspace : Workspace tc κ) : JobReport tc × Workspace tc κ :=
  match command.plan with
  | .error failure => (.ofOutcomeWith codec (.error (.failed failure)) [] [], workspace)
  | .ok (kind, target) =>
    let traced := runner.traced command kind target
    match codec.unprintable? traced with
    | some complaint => (.interrupted complaint [] [], workspace)
    | none =>
      match prepare runner.makeCaps command kind workspace.files workspace.cache with
      | (.error stop, cache) =>
        (.ofOutcomeWith codec (.error stop) traced [], { workspace with cache })
      | (.ok job, cache) =>
        let built := buildWith codec target job workspace.files workspace.compiler
        (.ofOutcomeWith codec built.outcome traced built.journal,
          { files := built.files, cache, compiler := built.compiler })

/-- Runs the command in an argument list. -/
def runWith (codec : Codec tc) (runner : Runner β κ) (args : List String)
    (workspace : Workspace tc κ) : JobReport tc × Workspace tc κ :=
  match Command.ofArgs args with
  | .error refusal =>
    match codec.unprintable? refusal.message with
    | some complaint => (.interrupted complaint [] [], workspace)
    | none =>
      ({ outcome := .ok .inputError, printed := refusal.message, journal := [] }, workspace)
  | .ok command => runner.executeWith codec command workspace

/-- Runs a command of the right shape, where every text can be encoded. -/
def execute (runner : Runner β κ) (command : Command) (workspace : Workspace tc κ) :
    JobReport tc × Workspace tc κ :=
  runner.executeWith .total command workspace

/-- Runs the command in an argument list, where every text can be encoded. -/
def run (runner : Runner β κ) (args : List String) (workspace : Workspace tc κ) :
    JobReport tc × Workspace tc κ :=
  runner.runWith .total args workspace

/-- Where nothing is refused, a job does what it does with its command. -/
theorem run_eq (runner : Runner β κ) (args : List String) (workspace : Workspace tc κ) :
    runner.run args workspace =
      match Command.ofArgs args with
      | .error refusal =>
        ({ outcome := .ok .inputError, printed := refusal.message, journal := [] }, workspace)
      | .ok command => runner.execute command workspace := rfl

theorem execute_eq (runner : Runner β κ) (command : Command) (workspace : Workspace tc κ) :
    runner.execute command workspace =
      match command.plan with
      | .error failure => (.ofOutcome (.error (.failed failure)) [] [], workspace)
      | .ok (kind, target) =>
        match prepare runner.makeCaps command kind workspace.files workspace.cache with
        | (.error stop, cache) =>
          (.ofOutcome (.error stop) (runner.traced command kind target) [], { workspace with cache })
        | (.ok job, cache) =>
          (.ofOutcome (build target job workspace.files workspace.compiler).outcome
              (runner.traced command kind target)
              (build target job workspace.files workspace.compiler).journal,
            { files := (build target job workspace.files workspace.compiler).files
              cache
              compiler := (build target job workspace.files workspace.compiler).compiler }) := by
  simp only [execute, executeWith, JobReport.ofOutcomeWith_total]
  rfl

end Runner

/-- Runs the command in an argument list with a runner of its own, which traces nothing. -/
def processCommand (make : CapsFactory β κ) (args : List String) (workspace : Workspace tc κ) :
    JobReport tc × Workspace tc κ :=
  ({ makeCaps := make } : Runner β κ).run args workspace

end ShaderDriver
