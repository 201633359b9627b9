import ShaderDriver.Failure
import ShaderDriver.Path.BaseName
import ShaderDriver.Path.Basic
import ShaderDriver.Settings

/-!
# ShaderDriver.Target

**What a job produces,** which the ending of its output path tells. There are five kinds of
generated code and, apart from them, the dehydrated form of a module. C++ targets are compiled with
invalid static tests permitted and with references to settings left in place.
-/

namespace ShaderDriver

/-- The languages that code is generated in. -/
inductive CodeTarget where
  | spirv
  | glsl
  | metal
  /-- A C++ header. -/
  | header
  /-- A C++ source file. -/
  | source
deriving DecidableEq, Repr

/-- What a job produces. -/
inductive Target where
  /-- A program, compiled and written out as code. -/
  | code (language : CodeTarget)
  /-- A module, stored as an array of bytes. -/
  | dehydrated
deriving DecidableEq, Repr

namespace CodeTarget

/-- The short name of a language. -/
def name : CodeTarget → String
  | spirv => "spirv"
  | glsl => "glsl"
  | metal => "metal"
  | header => "h"
  | source => "cpp"

/-- Whether the code is C++. -/
def isCpp : CodeTarget → Bool
  | header | source => true
  | spirv | glsl | metal => false

/-- The name that generated code is given after its input file. Only C++ code is given one: the file
name without `Gr` at its front and `.fp` at its end. -/
def baseName? (language : CodeTarget) (input : String) : Option String :=
  if language.isCpp then some (baseName input "Gr" ".fp") else none

end CodeTarget

namespace Target

/-- All targets, in the order in which their endings are tried. -/
def all : List Target :=
  [.code .spirv, .code .glsl, .code .metal, .code .header, .code .source, .dehydrated]

/-- The short name of a target. -/
def name : Target → String
  | code language => language.name
  | dehydrated => "dehydrated"

/-- The ending of the paths that a target is written to. -/
def ending : Target → String
  | code language => "." ++ language.name
  | dehydrated => ".dehydrated.sksl"

/-- Whether programs for this target may hold static tests that are invalid. -/
def permitsInvalidStaticTests : Target → Bool
  | code language => language.isCpp
  | dehydrated => false

/-- The setting for replacing settings that a target insists on, if it does. -/
def replaceSettings? : Target → Option Bool
  | code language => if language.isCpp then some false else none
  | dehydrated => none

/-- The settings a program is compiled with for this target. -/
def adjust (target : Target) (settings : Settings) : Settings :=
  match target.replaceSettings? with
  | none => settings
  | some replace => { settings with replaceSettings := replace }

/-- The first target of a table whose ending a path has. -/
def lookup? (table : List Target) (path : String) : Option Target :=
  table.find? (endsWith path ·.ending)

/-- The target that is written to a path. -/
def ofPath (path : String) : Except Failure Target :=
  match lookup? all path with
  | some target => .ok target
  | none => .error .unknownTarget

theorem mem_all (target : Target) : target ∈ all := by
  rcases target with ⟨_ | _ | _ | _ | _⟩ | _ <;> decide

end Target

end ShaderDriver
