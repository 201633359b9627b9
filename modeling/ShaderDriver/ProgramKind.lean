import ShaderDriver.Failure
import ShaderDriver.Path.Basic

/-!
# ShaderDriver.ProgramKind

**The kind of program in a source file,** which the extension of its path tells. No two extensions
end the same path, so the order in which they are tried does not matter.
-/

namespace ShaderDriver

/-- The kinds of program. -/
inductive ProgramKind where
  | vertex
  | fragment
  | geometry
  | fragmentProcessor
  | pipelineStage
deriving DecidableEq, Repr, Inhabited

namespace ProgramKind

/-- The name of a kind, as it stands in traces. -/
def name : ProgramKind → String
  | vertex => "vertex"
  | fragment => "fragment"
  | geometry => "geometry"
  | fragmentProcessor => "fragment_processor"
  | pipelineStage => "pipeline_stage"

/-- The extensions of source files and what they hold. -/
def extensions : List (String × ProgramKind) :=
  [(".vert", vertex), (".frag", fragment), (".sksl", fragment), (".geom", geometry),
    (".fp", fragmentProcessor), (".stage", pipelineStage)]

/-- The kind that the first matching extension of a table gives a path. -/
def lookup? (table : List (String × ProgramKind)) (path : String) : Option ProgramKind :=
  (table.find? (endsWith path ·.1)).map (·.2)

/-- The kind of program in the file a path names. -/
def ofPath (path : String) : Except Failure ProgramKind :=
  match lookup? extensions path with
  | some kind => .ok kind
  | none => .error .unknownKind

end ProgramKind

end ShaderDriver
