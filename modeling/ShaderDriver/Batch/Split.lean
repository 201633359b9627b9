/-!
# ShaderDriver.Batch.Split

**A command line as a list of jobs.** Jobs are separated by the argument `--`. Every job is given
the name of the program in front of its own arguments, and there is no job where nothing stands
between two separators.
-/

namespace ShaderDriver.Batch

/-- The argument that separates jobs. -/
def delimiter : String := "--"

/-- The stretches of arguments between delimiters that are not empty. -/
def segments (args : List String) : List (List String) :=
  (args.splitOn delimiter).filter (!·.isEmpty)

/-- The jobs of a command line. -/
def split (argv : List String) : List (List String) :=
  match argv with
  | [] => []
  | program :: args => (segments args).map (program :: ·)

end ShaderDriver.Batch
