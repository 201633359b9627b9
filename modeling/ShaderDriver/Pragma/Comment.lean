import ShaderDriver.Text.Bytes
import ShaderDriver.Text.Search

/-!
# ShaderDriver.Pragma.Comment

**Finding the settings comment in a source.** The comment is the first stretch of the source that
starts with the marker `/*#pragma settings` and a space; it ends at the first `*/` after that. The
body of the comment is what stands between the two, and it keeps the space at the end of the marker:
every word of the body, the first one included, then follows a space.
-/

namespace ShaderDriver.Pragma

/-- What a settings comment starts with, up to the space before its first word. -/
def opening : Bytes := utf8 "/*#pragma settings"

/-- What a settings comment ends with. -/
def closing : Bytes := utf8 "*/"

/-- The space between two words. -/
def space : UInt8 := 32

/-- The body of the settings comment of a source, if there is a complete one. -/
def body? (source : Bytes) : Option Bytes :=
  match Text.breakOn? (opening ++ [space]) source with
  | none => none
  | some (_, rest) => (Text.breakOn? closing (space :: rest)).map (·.1)

end ShaderDriver.Pragma
