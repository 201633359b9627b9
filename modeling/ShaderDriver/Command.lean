import ShaderDriver.Text.Bytes

/-!
# ShaderDriver.Command

**The shape of a command.** A command is the name of the program, an input path, an output path and
possibly a flag that says whether the settings comment of the input is honoured; without a flag it
is. Anything else is refused with the usage text.
-/

namespace ShaderDriver

/-- A command of the right shape. -/
structure Command where
  input : String
  output : String
  /-- Whether the settings comment of the input is honoured. -/
  honorsPragma : Bool
deriving DecidableEq, Repr

/-- What is wrong with the shape of a command. -/
inductive Refusal where
  | wrongCount
  | unknownFlag (flag : String)
deriving DecidableEq, Repr

namespace Command

/-- The usage text. -/
def usage : Bytes :=
  utf8 ("usage: skslc <input> <output> <flags> -- <input2> <output2> <flags> -- ...\n" ++
    "\n" ++
    "Allowed flags:\n" ++
    "--settings:   honor embedded /*#pragma settings*/ comments.\n" ++
    "--nosettings: ignore /*#pragma settings*/ comments\n")

/-- What a flag says about the settings comment. -/
def honorsPragma? (flag : String) : Option Bool :=
  if flag = "--settings" then some true
  else if flag = "--nosettings" then some false
  else none

/-- Reads a command: the name of the program and its arguments. -/
def ofArgs (args : List String) : Except Refusal Command :=
  match args with
  | [_, input, output] => .ok { input, output, honorsPragma := true }
  | [_, input, output, flag] =>
    match honorsPragma? flag with
    | some honorsPragma => .ok { input, output, honorsPragma }
    | none => .error (.unknownFlag flag)
  | _ => .error .wrongCount

end Command

/-- What is printed for a command that is refused. -/
def Refusal.message : Refusal → Bytes
  | wrongCount => Command.usage
  | unknownFlag flag => utf8 ("unrecognized flag: " ++ flag ++ "\n\n") ++ Command.usage

end ShaderDriver
