/-!
# ShaderDriver.Path.Location

**Where a path leads.** Opening a file walks from directory to directory and ends at a name. The
walk is fixed by the path alone, and so is the location it ends at; only whether the walk can be
made depends on the files that exist.

* `Location` names a file by the directories above it, seen from the current directory. Two entries
  can stand above everything else: `".."`, repeated, for the directories that hold the current one,
  and `"/"` for the root that absolute paths start from.
* `Route.ofPath?` is the walk of a path. There is none for the empty path, for a path that is too
  long or has too long a name in it, and for a path whose last name can only be a directory.

This is an idealisation. Where the current directory stands is not known here, so an absolute path
and a relative one to the same file lead to two locations, and so do `../here/a` and `a` in a
directory named `here`. Links are not followed: each name of a linked file is a location.
-/

namespace ShaderDriver

/-- The names on the way from the current directory to a file or directory. The empty location is
the current directory itself. -/
abbrev Location := List String

namespace Location

/-- The directory that holds this one. -/
def parent (here : Location) : Location :=
  match here.getLast? with
  | none => [".."]
  | some name =>
    if name = ".." then here ++ [".."]
    else if name = "/" then here
    else here.dropLast

/-- Follows one name of a path. -/
def follow (here : Location) (name : String) : Location :=
  if name = "" ∨ name = "." then here
  else if name = ".." then here.parent
  else here ++ [name]

end Location

/-- The walk that opening a path takes. -/
structure Route where
  /-- The directories that are entered on the way, in order. -/
  entered : List Location
  /-- Where the last name leads. -/
  target : Location
deriving DecidableEq, Repr

namespace Route

/-- The length in bytes from which a path is refused. -/
def maxPathSize : Nat := 4096

/-- The longest name of a file, in bytes. -/
def maxNameSize : Nat := 255

/-- The names on a path, empty ones included. -/
def names (path : String) : List String :=
  (path.toList.splitOn '/').map String.ofList

/-- The walk of a path, if it is one that a file can be opened by. -/
def ofPath? (path : String) : Option Route :=
  match (names path).getLast? with
  | none => none
  | some last =>
    if last ∈ ["", ".", ".."] then none
    else if (names path).any (maxNameSize < ·.utf8ByteSize) then none
    else if maxPathSize ≤ path.utf8ByteSize then none
    else
      let start : Location := if path.toList.head? = some '/' then ["/"] else []
      let directories := (names path).dropLast
      some {
        entered := directories.scanl Location.follow start
        target := directories.foldl Location.follow start ++ [last] }

end Route

/-- The location of the file that a path denotes. -/
def Location.ofPath? (path : String) : Option Location :=
  (Route.ofPath? path).map (·.target)

end ShaderDriver
