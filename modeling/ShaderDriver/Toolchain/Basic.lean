import ShaderDriver.Failure
import ShaderDriver.ProgramKind
import ShaderDriver.Target

/-!
# ShaderDriver.Toolchain.Basic

**What the driver asks of a compiler.** The compiler is not part of the driver. A `Toolchain` is a
set of calls that it has to answer, in a state of its own; each call may break down instead.

An emitter is the one collaborator that touches files, and it does so only through the stream it is
given. An `Emission` is all that an emitter does in one call: a tree of stream operations, branching
where the emitter looks at an answer of the stream, with the emitter's own answer at the leaves.

The texts that a collaborator comes up with are kept as bytes, which takes them to have an encoding.
A text of an emitter that has none is a break-down of the emitter: the emission ends there in the
complaint about the text. So is a margin that has none, but at the last offset, since a module is
written as one text. The diagnostics of `errorText` and the complaints of a `Crash` are encoded only
when they are written, and of these a `Codec` says whether they can be.
-/

namespace ShaderDriver

/-- A call of a collaborator: it changes the state `σ` and answers or breaks down. -/
abbrev Call (σ α : Type) : Type := ExceptT Crash (StateM σ) α

/-- What an emitter does with its stream, and how it ends. -/
inductive Emission (σ : Type) where
  /-- The emitter answers whether it succeeded, or breaks down, and leaves a state behind. -/
  | finish (answer : Except Crash Bool) (state : σ)
  /-- The emitter writes to its stream. -/
  | write (data : Bytes) (next : Emission σ)
  /-- The emitter closes its stream and goes on by what that answers. -/
  | close (next : Bool → Emission σ)
  /-- The emitter asks whether its stream is valid and goes on by what that answers. -/
  | probe (next : Bool → Emission σ)

/-- A compiler, as the driver sees it. `β` is the type of capability bundles. The compiler that was
created last is the one that all other calls go to. -/
structure Toolchain (β : Type) where
  /-- The state of the compiler. -/
  State : Type
  /-- Compiled programs. -/
  Program : Type
  /-- Symbol tables of loaded modules. -/
  Symbols : Type
  /-- Declarations of loaded modules. -/
  Elements : Type
  /-- Creates the compiler for a capability bundle, possibly permitting invalid static tests. -/
  create : Option β → Bool → Call State Unit
  /-- Compiles source text; there is no program if it is rejected. -/
  compile : ProgramKind → Bytes → Settings → Call State (Option Program)
  /-- Writes a program out as code. C++ code is given a base name. -/
  emit : CodeTarget → Program → Option String → State → Emission State
  /-- Loads the module in a file; there is none if it is rejected. -/
  loadModule : ProgramKind → String → Call State (Option (Symbols × Elements))
  /-- Starts the dehydration of a module. -/
  makeDehydrator : Call State Unit
  /-- Adds a symbol table to the module that is being dehydrated. -/
  writeSymbols : Symbols → Call State Unit
  /-- Adds declarations to the module that is being dehydrated. -/
  writeElements : Elements → Call State Unit
  /-- Ends the dehydration with its result. -/
  finish : Call State Bytes
  /-- The margin in front of the byte at an offset. -/
  marginAt : Nat → Call State Bytes
  /-- The diagnostics for what was rejected. -/
  errorText : Call State Bytes

end ShaderDriver
