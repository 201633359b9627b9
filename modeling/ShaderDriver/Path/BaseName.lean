import ShaderDriver.Text.Search

/-!
# ShaderDriver.Path.BaseName

**The name in the middle of a file name.** Generated code is named after the file it comes from:
`baseName "src/gpu/GrBlur.fp" "Gr" ".fp"` is `"Blur"`. Both kinds of slash end a directory.
-/

namespace ShaderDriver

/-- The characters that end the name of a directory. -/
def isSeparator (c : Char) : Bool := c = '/' || c = '\\'

/-- The last name on a path: what follows the last separator. -/
def fileName (path : List Char) : List Char :=
  (path.reverse.takeWhile (!isSeparator ·)).reverse

/-- What stands between `front` and `back` in the file name of `path`; empty for a file name that is
not `front`, something, and `back`, in this order and without an overlap. -/
def baseName (path front back : String) : String :=
  match Text.stripPrefix? front.toList (fileName path.toList) with
  | none => ""
  | some rest =>
    match Text.stripSuffix? back.toList rest with
    | none => ""
    | some middle => String.ofList middle

end ShaderDriver
