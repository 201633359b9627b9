/-!
# ShaderDriver.ResultCode

**The outcome of a job, ordered by severity.** A rejected program ranks lowest among the failures,
since that is what tests of a shader compiler provoke on purpose; unreadable inputs and unwritable
outputs are never expected during a build. A batch answers with the worst outcome of its jobs, and
the severity is the exit status of the program.
-/

namespace ShaderDriver

/-- The outcome of a job, from the least to the most severe. -/
inductive ResultCode where
  | success
  | compileError
  | inputError
  | outputError
deriving DecidableEq, Repr, Inhabited

namespace ResultCode

/-- The number a code is known by outside; a larger one is worse. -/
def severity : ResultCode → Nat
  | success => 0
  | compileError => 1
  | inputError => 2
  | outputError => 3

/-- The name a code is printed under. -/
def name : ResultCode → String
  | success => "SUCCESS"
  | compileError => "COMPILE_ERROR"
  | inputError => "INPUT_ERROR"
  | outputError => "OUTPUT_ERROR"

/-- The code with the given number. -/
def ofInt? : Int → Option ResultCode
  | 0 => some success
  | 1 => some compileError
  | 2 => some inputError
  | 3 => some outputError
  | _ => none

@[simp] theorem ofInt?_severity (c : ResultCode) : ofInt? c.severity = some c := by
  cases c <;> rfl

theorem severity_injective {c d : ResultCode} (h : c.severity = d.severity) : c = d := by
  cases c <;> cases d <;> simp_all [severity]

/-- The more severe of two codes. -/
def worst (c d : ResultCode) : ResultCode :=
  if c.severity < d.severity then d else c

@[simp] theorem severity_worst (c d : ResultCode) :
    (worst c d).severity = max c.severity d.severity := by
  unfold worst
  split <;> omega

end ResultCode

end ShaderDriver
