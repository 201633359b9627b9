import ShaderDriver.Cli

/-!
# ShaderDriver.Main

**The command line.** The part of the file system that the arguments can reach is taken in as a
value, the program runs on it, and the files that have changed are written back. No compiler is
linked into this program, so the environment cannot name one.
-/

open ShaderDriver

/-- The path by which the operating system knows a location. -/
def systemPath : Location → String
  | [] => "."
  | "/" :: names => "/" ++ "/".intercalate names
  | names => "/".intercalate names

/-- The size from which a file counts as a device that never ends. -/
def endlessSize : USize := 0x1000000

/-- What stands at a location. A directory is known by opening but refusing to be read. -/
def look (location : Location) : IO (Option Node) := do
  try
    let handle ← IO.FS.Handle.mk (systemPath location) .read
    let content ← handle.read endlessSize
    return some (if content.usize < endlessSize then .regular content.toList else .full)
  catch error =>
    match error with
    | .inappropriateType .. => return some .directory
    | _ => return none

/-- Takes in everything on the way of a path. -/
def takeIn (files : FileTree) (path : String) : IO FileTree := do
  match Route.ofPath? path with
  | none => return files
  | some route =>
    let mut files := files
    for location in route.entered ++ [route.target] do
      if let some node ← look location then
        files := files.put location node
    return files

/-- Writes back the regular files that differ from what they were. -/
def writeBack (before after : FileTree) : IO Unit := do
  for (location, node) in after.toList do
    if before.node? location ≠ some node then
      if let .regular content := node then
        IO.FS.writeBinFile (systemPath location) ⟨content.toArray⟩

/-- The variables that configure a run. -/
def configuration : IO Config.Environment := do
  let mut environment : Config.Environment := []
  for name in [Config.compilerVariable, Config.debugVariable] do
    if let some value ← IO.getEnv name then
      environment := (name, value) :: environment
  return environment

/-- No compilers. -/
def noCompilers : Cli.Compilers Empty where
  modules := []
  toolchain := nofun
  start := nofun

def main (args : List String) : IO UInt32 := do
  let before ← args.foldlM takeIn {}
  let run := Cli.run noCompilers ("skslc" :: args) (← configuration) before
  writeBack before run.files
  let out ← IO.getStdout
  out.write ⟨run.printed.toArray⟩
  out.flush
  match run.verdict with
  | .ok code => return code.severity.toUInt32
  | .error (.escaped escape) =>
    IO.eprintln ("skslc: " ++ String.ofList (escape.message.map fun b => Char.ofNat b.toNat))
    return 1
  | .error (.invalidCode _) => return 1
