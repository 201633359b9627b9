import ShaderDriver.Config.ModuleTable
import ShaderDriver.Text.Search

/-!
# ShaderDriver.Config.Load

**What the environment says about a run.** `SKSLC_COMPILER` names the compiler factory, in the form
`module:attribute`; the attribute may be a dotted path. `SKSLC_DEBUG` asks for a trace of every job.
A factory that cannot be loaded is refused with the first of these reasons that applies: the form of
the name, the import of the module, the attribute, and that it cannot be called.
-/

namespace ShaderDriver.Config

/-- The variable that names the compiler factory. -/
def compilerVariable : String := "SKSLC_COMPILER"

/-- The variable that asks for tracing. -/
def debugVariable : String := "SKSLC_DEBUG"

/-- Why a configuration cannot be used. -/
inductive Fault where
  /-- The name of the factory does not have the form `module:attribute`. -/
  | malformed (spec : String)
  | importFailed (moduleName : String) (fault : ImportFault)
  /-- The module has no such attribute, or it holds nothing. -/
  | missingAttribute (moduleName path : String)
  | notCallable (spec : String)
deriving DecidableEq, Repr

/-- The text of a fault. -/
def Fault.message : Fault → String
  | malformed spec => compilerVariable ++ " must look like 'module:factory', got '" ++ spec ++ "'"
  | importFailed moduleName fault =>
    "cannot import compiler module '" ++ moduleName ++ "': " ++ fault.message
  | missingAttribute moduleName path =>
    "'" ++ moduleName ++ "' has no attribute '" ++ path ++ "'"
  | notCallable spec => "'" ++ spec ++ "' is not callable"

variable {φ : Type}

/-- The module and the dotted path of the attribute that the name of a factory consists of, cut at
the first colon. -/
def parseSpec? (spec : String) : Option (String × String) :=
  match Text.breakOn? [':'] spec.toList with
  | none => none
  | some (moduleName, path) =>
    if moduleName = [] ∨ path = [] then none
    else some (String.ofList moduleName, String.ofList path)

/-- Loads the factory of a name. -/
def loadFactory (modules : ModuleTable φ) (spec : String) : Except Fault φ :=
  match parseSpec? spec with
  | none => .error (.malformed spec)
  | some (moduleName, path) =>
    match modules.load moduleName with
    | .error fault => .error (.importFailed moduleName fault)
    | .ok found =>
      match found.value.follow? (ModuleTable.parts path) with
      | none => .error (.missingAttribute moduleName path)
      | some value =>
        match value.callable? with
        | none => .error (.notCallable spec)
        | some factory => .ok factory

/-- The variables of the environment and their values. -/
abbrev Environment : Type := List (String × String)

/-- How a run is configured. -/
structure Options (φ : Type) where
  /-- The compiler factory, if one is configured. -/
  factory : Option φ := none
  /-- Whether every job is traced. -/
  debug : Bool := false

/-- Whether the environment asks for tracing: by any value but the empty one and `0`. -/
def isDebug (environment : Environment) : Bool :=
  match environment.lookup debugVariable with
  | none => false
  | some value => value != "" && value != "0"

/-- The configuration in an environment. An empty name of a factory counts as none. -/
def load (modules : ModuleTable φ) (environment : Environment) : Except Fault (Options φ) :=
  let debug := isDebug environment
  match environment.lookup compilerVariable with
  | none | some "" => .ok { debug }
  | some spec =>
    match loadFactory modules spec with
    | .error fault => .error fault
    | .ok factory => .ok { factory := some factory, debug }

end ShaderDriver.Config
