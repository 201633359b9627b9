import ShaderDriver.Text.Quoted

/-!
# ShaderDriver.Config.ModuleTable

**The modules that a compiler can be loaded from.** A module has a dotted name and attributes; an
attribute may be callable, may have attributes itself, and may hold nothing. A module whose name
extends that of another one can be loaded only if the other is a package.
-/

namespace ShaderDriver.Config

/-- The value of an attribute. `φ` is the type of what a callable attribute makes. -/
inductive Attribute (φ : Type) where
  /-- The attribute is there but holds nothing. -/
  | nothing
  /-- Something with attributes of its own, which may be callable. -/
  | object (callable : Option φ) (members : List (String × Attribute φ))

namespace Attribute

variable {φ : Type}

/-- The attribute of a name, if there is one that holds something. The empty name is that of no
attribute. -/
def member? (value : Attribute φ) (name : String) : Option (Attribute φ) :=
  match value with
  | nothing => none
  | object _ members =>
    if name = "" then none
    else
      match members.lookup name with
      | some (object callable members) => some (object callable members)
      | some nothing | none => none

/-- The attribute reached by following names one after the other. -/
def follow? (value : Attribute φ) : List String → Option (Attribute φ)
  | [] => some value
  | name :: names =>
    match value.member? name with
    | none => none
    | some value => follow? value names

/-- What calling the attribute makes, if it can be called. -/
def callable? : Attribute φ → Option φ
  | nothing => none
  | object callable _ => callable

end Attribute

/-- A module. -/
structure Module (φ : Type) where
  /-- The full dotted name. -/
  name : String
  /-- Whether other modules can stand below this one. -/
  isPackage : Bool
  attributes : List (String × Attribute φ)

/-- The module as a value. -/
def Module.value {φ : Type} (m : Module φ) : Attribute φ := .object none m.attributes

/-- The modules that exist. -/
abbrev ModuleTable (φ : Type) : Type := List (Module φ)

/-- Why a module cannot be imported. -/
inductive ImportFault where
  /-- The name starts with a dot, so that it is relative to a package; there is none. -/
  | relative (name : String)
  /-- There is no module of this name. -/
  | missing (name : String)
  /-- There is no module of this name, and none can be below `parent`. -/
  | missingBelow (name parent : String)
deriving DecidableEq, Repr

/-- The text of an import fault. -/
def ImportFault.message : ImportFault → String
  | relative name =>
    "the 'package' argument is required to perform a relative import for " ++ Text.quoted name
  | missing name => "No module named " ++ Text.quoted name
  | missingBelow name parent =>
    "No module named " ++ Text.quoted name ++ "; " ++ Text.quoted parent ++ " is not a package"

namespace ModuleTable

variable {φ : Type}

/-- The parts of a dotted name. -/
def parts (name : String) : List String := (name.toList.splitOn '.').map String.ofList

/-- The module of a name. -/
def find? (modules : ModuleTable φ) (name : String) : Option (Module φ) :=
  List.find? (·.name = name) modules

/-- Loads the modules below `above` whose names extend the name of `above` part by part; the last
one is the answer. -/
def descend (modules : ModuleTable φ) (above : Module φ) :
    List String → Except ImportFault (Module φ)
  | [] => .ok above
  | part :: rest =>
    let name := above.name ++ "." ++ part
    match find? modules name with
    | some below => descend modules below rest
    | none => .error (if above.isPackage then .missing name else .missingBelow name above.name)

/-- Imports the module of a dotted name, and before it those that the name extends. -/
def load (modules : ModuleTable φ) (name : String) : Except ImportFault (Module φ) :=
  if name.toList.head? = some '.' then .error (.relative name)
  else
    match parts name with
    | [] => .error (.missing name)
    | first :: rest =>
      match find? modules first with
      | none => .error (.missing first)
      | some above => descend modules above rest

end ModuleTable

end ShaderDriver.Config
