import ShaderDriver.Batch.Split
import ShaderDriver.ResultCode
import ShaderDriver.Text.Bytes

/-!
# ShaderDriver.Batch.Run

**Running every job of a command line.** A job that fails does not stop the batch, and the batch
answers with the worst outcome. Two things do stop it: a job that ends without an outcome, and an
outcome that is no result code.

How a job is run is left open. A job function works in a state `σ`; besides the outcome of a job,
which is either a number or some `ε`, it answers with what was printed, and with whatever detail `δ`
is of interest.
-/

namespace ShaderDriver.Batch

variable {ε δ σ : Type}

/-- What a job function answers. -/
structure Reply (ε δ : Type) where
  outcome : Except ε Int
  printed : Bytes
  detail : δ

/-- What stops a batch. -/
inductive Fault (ε : Type) where
  /-- A job ended without an outcome. -/
  | escaped (cause : ε)
  /-- The outcome of a job is no result code. -/
  | invalidCode (code : Int)
deriving DecidableEq, Repr

/-- A job that has been run. -/
structure Entry (ε δ : Type) where
  args : List String
  outcome : Except (Fault ε) ResultCode
  printed : Bytes
  detail : δ

/-- The outcome of a job, once its number is known to be a result code. -/
def check (outcome : Except ε Int) : Except (Fault ε) ResultCode :=
  match outcome with
  | .error cause => .error (.escaped cause)
  | .ok code =>
    match ResultCode.ofInt? code with
    | none => .error (.invalidCode code)
    | some code => .ok code

/-- The entry for a job and its reply. -/
def Entry.ofReply (args : List String) (reply : Reply ε δ) : Entry ε δ where
  args
  outcome := check reply.outcome
  printed := reply.printed
  detail := reply.detail

/-- Runs jobs one after the other, up to the first that stops the batch. -/
def perform (job : List String → σ → Reply ε δ × σ) :
    List (List String) → σ → List (Entry ε δ) × σ
  | [], state => ([], state)
  | args :: jobs, state =>
    let (reply, state) := job args state
    let entry := Entry.ofReply args reply
    match entry.outcome with
    | .error _ => ([entry], state)
    | .ok _ =>
      let (entries, state) := perform job jobs state
      (entry :: entries, state)

/-- Jobs that do not stop the batch are followed, in the state they leave, by those after them. -/
theorem perform_append {job : List String → σ → Reply ε δ × σ} {first last : List (List String)}
    {state : σ} (h : ∀ entry ∈ (perform job first state).1, entry.outcome.isOk = true) :
    perform job (first ++ last) state =
      ((perform job first state).1 ++ (perform job last (perform job first state).2).1,
        (perform job last (perform job first state).2).2) := by
  induction first generalizing state with
  | nil => rfl
  | cons args first ih =>
    cases hout : (Entry.ofReply args (job args state).1).outcome with
    | error fault =>
      have hentry := h (Entry.ofReply args (job args state).1) (by simp [perform, hout])
      simp [hout, Except.isOk, Except.toBool] at hentry
    | ok code =>
      have hrest := @ih (job args state).2 fun entry hentry =>
        h entry (by simp [perform, hout, hentry])
      simp [perform, hout, hrest]

/-- The line that traces the outcome of a job. -/
def Entry.traceLine (entry : Entry ε δ) (code : ResultCode) : Bytes :=
  utf8 ("skslc: " ++ " ".intercalate entry.args.tail ++ ": " ++ code.name ++ "\n")

/-- What is printed over a job, including the trace of its outcome if there is one. -/
def Entry.transcript (debug : Bool) (entry : Entry ε δ) : Bytes :=
  match debug, entry.outcome with
  | true, .ok code => entry.printed ++ entry.traceLine code
  | _, _ => entry.printed

/-- The jobs of a batch that have been run, in order. -/
structure Log (ε δ : Type) where
  entries : List (Entry ε δ)

namespace Log

/-- The worst outcome, or what stopped the batch. -/
def verdict (log : Log ε δ) : Except (Fault ε) ResultCode :=
  log.entries.foldlM (fun worst entry => entry.outcome.map worst.worst) .success

/-- Everything that was printed, with every outcome traced if `debug` is set. Standard output is taken
to print the traces: they are made when the batch has been run, and do not stop it. -/
def printed (debug : Bool) (log : Log ε δ) : Bytes :=
  log.entries.flatMap (Entry.transcript debug)

end Log

/-- Runs every job on a command line. -/
def run (job : List String → σ → Reply ε δ × σ) (argv : List String) (state : σ) : Log ε δ × σ :=
  let (entries, state) := perform job (split argv) state
  (⟨entries⟩, state)

end ShaderDriver.Batch
