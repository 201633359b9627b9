import ShaderDriver.Text.Invisible

/-!
# ShaderDriver.Text.Quoted

**A name in quotes.** Single quotes are used unless the name holds a single quote and no double one.
A backslash, the quote in use, and characters that cannot be seen are escaped.
-/

namespace ShaderDriver.Text

/-- The hexadecimal digits of a number, filled up with zeros to a width. -/
def hexDigits (width n : Nat) : List Char :=
  let digits := Nat.toDigits 16 n
  List.replicate (width - digits.length) '0' ++ digits

/-- A character inside quotes of the given kind. -/
def quotedChar (quote c : Char) : List Char :=
  if c = quote ∨ c = '\\' then ['\\', c]
  else if c = '\t' then ['\\', 't']
  else if c = '\n' then ['\\', 'n']
  else if c = '\r' then ['\\', 'r']
  else if isVisible c then [c]
  else if c.toNat ≤ 0xff then '\\' :: 'x' :: hexDigits 2 c.toNat
  else if c.toNat ≤ 0xffff then '\\' :: 'u' :: hexDigits 4 c.toNat
  else '\\' :: 'U' :: hexDigits 8 c.toNat

/-- The quote that a name is put in. -/
def quoteFor (name : List Char) : Char :=
  if '\'' ∈ name ∧ '"' ∉ name then '"' else '\''

/-- A name in quotes. -/
def quoted (name : String) : String :=
  let quote := quoteFor name.toList
  String.ofList (quote :: name.toList.flatMap (quotedChar quote) ++ [quote])

end ShaderDriver.Text
