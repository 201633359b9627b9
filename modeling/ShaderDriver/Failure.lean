import ShaderDriver.ResultCode
import ShaderDriver.Text.Bytes

/-!
# ShaderDriver.Failure

**Why a job does not succeed.** There are two ways for a job to stop early:

* a `Failure` is a cause the driver knows. It has a `Category`, which fixes the result code, and a
  message, which is printed;
* an `Escape` is not turned into a result code: it ends the whole batch.

A `Report` is a failure made ready for printing, possibly with the name of the file it concerns.
-/

namespace ShaderDriver

/-! ### Categories and reports -/

/-- The categories of failure. Every category but `general` refines another one. -/
inductive Category where
  | general
  | input
  | pragma
  | compile
  | output
deriving DecidableEq, Repr

namespace Category

/-- The category itself and those it refines, the widest first. -/
def lineage : Category → List Category
  | general => [general]
  | input => [general, input]
  | pragma => [general, input, pragma]
  | compile => [general, compile]
  | output => [general, output]

/-- The result code of a job that fails in this way. -/
def resultCode : Category → ResultCode
  | general | input | pragma => .inputError
  | compile => .compileError
  | output => .outputError

end Category

/-- A failure ready to be printed. -/
structure Report where
  category : Category
  message : Bytes
  /-- The offending file, where there is one to name. -/
  file : Option String := none

/-- The printed text of a report: the message, after the name of the file unless that is empty. -/
def Report.text (report : Report) : Bytes :=
  match report.file with
  | none => report.message
  | some file =>
    if file = "" then report.message else utf8 file ++ utf8 ": " ++ report.message

/-! ### Causes -/

/-- The causes that make a job fail with a result code. -/
inductive Failure where
  /-- The input path has none of the known extensions. -/
  | unknownKind
  /-- The output path has none of the known extensions. -/
  | unknownTarget
  /-- The input file cannot be opened. -/
  | unreadable (path : String)
  /-- A settings comment holds something that is no token; `rest` is what was left of it. -/
  | unrecognizedPragma (rest : Bytes)
  /-- The compiler rejected the program, or broke down over it. -/
  | compilation (diagnostic : Bytes)
  /-- The output file cannot be opened, or did not take everything written to it. -/
  | unwritable (path : String)
deriving DecidableEq, Repr

namespace Failure

/-- The category a cause belongs to. -/
def category : Failure → Category
  | unknownKind | unknownTarget | unreadable _ => .input
  | unrecognizedPragma _ => .pragma
  | compilation _ => .compile
  | unwritable _ => .output

/-- The message a cause is reported with. -/
def message : Failure → Bytes
  | unknownKind =>
    utf8 "input filename must end in '.vert', '.frag', '.geom', '.fp', '.stage', or '.sksl'"
  | unknownTarget =>
    utf8 ("expected output filename to end with '.spirv', '.glsl', '.cpp', '.h', '.metal', " ++
      "or '.dehydrated.sksl'")
  | unreadable path => utf8 ("error reading '" ++ path ++ "'")
  | unrecognizedPragma rest => utf8 "Unrecognized #pragma settings: " ++ rest
  | compilation diagnostic => diagnostic
  | unwritable path => utf8 ("error writing '" ++ path ++ "'")

/-- The report of a cause. No cause names its file apart from the message. -/
def report (failure : Failure) : Report where
  category := failure.category
  message := failure.message

/-- The result code of a job that fails for this cause. -/
def resultCode (failure : Failure) : ResultCode := failure.category.resultCode

@[simp] theorem text_report (failure : Failure) : failure.report.text = failure.message := rfl

/-- A failure is never a success. -/
theorem resultCode_ne_success (failure : Failure) : failure.resultCode ≠ .success := by
  cases failure <;> simp [resultCode, category, Category.resultCode]

end Failure

/-! ### Collaborators that break down, and what leaves a job -/

/-- What a collaborator left behind instead of an answer: the text of its complaint. Whether that
text can be encoded is for a `Codec` to say. -/
structure Crash where
  message : Bytes
deriving DecidableEq, Repr

/-- What ends a job without a result code. -/
inductive Escape where
  /-- A path that was to be opened holds U+0000, which no file name can. -/
  | nullInPath
  /-- The source of the capability bundles broke down. -/
  | crash (crash : Crash)
  /-- A text could not be encoded, on its way to the output or to standard output. -/
  | unencodable (complaint : Crash)
deriving DecidableEq, Repr

/-- The text of an escape. -/
def Escape.message : Escape → Bytes
  | nullInPath => utf8 "embedded null byte"
  | crash c | unencodable c => c.message

/-- Either way of stopping early. -/
inductive Stop where
  | failed (failure : Failure)
  | escaped (escape : Escape)
deriving DecidableEq, Repr

end ShaderDriver
