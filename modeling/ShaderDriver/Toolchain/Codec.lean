import ShaderDriver.Toolchain.Basic

/-!
# ShaderDriver.Toolchain.Codec

**Texts on their way out.** A text is kept as the bytes that a file would hold of it. Not every text
that a collaborator comes up with can be encoded, though, and standard output may take fewer texts
than a file does. A `Codec` says which texts are refused at these two points, and with what
complaint. Neither complaint is caught: it ends the job that meets with it, and the batch.

* A diagnostic is encoded once it is written, behind the banner, to the output that has been opened
  again.
* A job prints the line that traces it, the usage text, or the message it fails with.

Nothing else that leaves a job can be refused. Sources are read in a way that lets every byte be
written again, and paths are strings. What an emitter writes, and the margins of a module, are
encoded while the compiler is at work; a text that has no encoding is a break-down of the compiler
there, as any other. What is printed outside of jobs, the outcomes of a traced batch and the fault of
an environment, is taken to be printed.

`Codec.total` takes every text. `build`, `Runner.run` and what is made of them are for this codec;
`buildWith`, `Runner.runWith` and so on are for any.
-/

namespace ShaderDriver

/-- Which texts are refused on their way out. -/
structure Codec {β : Type} (tc : Toolchain β) where
  /-- The complaint about the diagnostic that has just been given, if it cannot be encoded. The
  state is the one that the compiler is in; the bytes stand for the text, and for nothing more if
  there is a complaint. -/
  unencodable? : tc.State → Bytes → Option Crash
  /-- The complaint of standard output about a text, if it does not take it. -/
  unprintable? : Bytes → Option Crash
  /-- There is nothing to refuse where nothing is printed. -/
  unprintable?_nil : unprintable? [] = none

namespace Codec

variable {β : Type} {tc : Toolchain β}

/-- The codec that refuses some diagnostics and lets everything be printed. -/
def ofDiagnostics (unencodable? : tc.State → Bytes → Option Crash) : Codec tc where
  unencodable?
  unprintable? _ := none
  unprintable?_nil := rfl

/-- The codec that takes every text. -/
def total : Codec tc := ofDiagnostics fun _ _ => none

end Codec

end ShaderDriver
