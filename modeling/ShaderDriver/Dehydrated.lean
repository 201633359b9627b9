import ShaderDriver.Text.Bytes

/-!
# ShaderDriver.Dehydrated

**A module as a C array.** A dehydrated module is a sequence of bytes. It is delivered as C source
text that defines an array of these bytes and a constant with its length; both are named after the
module. Each byte is a decimal number with a comma behind it. In front of each number may stand a
*margin*, text that the dehydrator chooses by the offset of the byte, to break lines for instance.
-/

namespace ShaderDriver.Dehydrated

/-- A byte in decimal. -/
def decimal (byte : UInt8) : Bytes := utf8 (toString byte.toNat)

/-- What stands in front of the first element. -/
def header (name : String) : Bytes :=
  utf8 ("static uint8_t SKSL_INCLUDE_" ++ name ++ "[] = \x7b")

/-- One element: its margin, the number, and the comma. -/
def element (margin : Bytes) (byte : UInt8) : Bytes := margin ++ decimal byte ++ utf8 ","

/-- What stands behind the last element. -/
def footer (name : String) : Bytes :=
  utf8 ("\x7d;\nstatic constexpr size_t SKSL_INCLUDE_" ++ name ++
    "_LENGTH = sizeof(SKSL_INCLUDE_" ++ name ++ ");\n")

/-- The C source text for the module `name`, each byte given with its margin. -/
def renderElements (name : String) (elements : List (Bytes × UInt8)) : Bytes :=
  header name ++ elements.flatMap (fun (margin, byte) => element margin byte) ++ footer name

/-- The C source text for the module `name`, the margins given by a function of the offset. -/
def render (name : String) (data : Bytes) (margin : Nat → Bytes) : Bytes :=
  renderElements name (((List.range data.length).map margin).zip data)

end ShaderDriver.Dehydrated
