import ShaderDriver.Dehydrated
import ShaderDriver.Text.Search

/-!
# ShaderDriver.Dehydrated.Reader

**Reading a C array back.** The reader expects the header of the module and then decimal numbers,
each with a comma behind it, up to the closing brace. White space may stand in front of a number and
in front of the brace. Which bytes white space is made of is left open; `isBlank` is what C has.
-/

namespace ShaderDriver.Dehydrated

/-- The bytes that C counts as white space. -/
def isBlank (b : UInt8) : Bool := b = 32 || (9 ≤ b && b ≤ 13)

/-- The value of a decimal digit. -/
def digit? (b : UInt8) : Option Nat :=
  if 48 ≤ b ∧ b ≤ 57 then some (b.toNat - 48) else none

/-- The closing brace. -/
def brace : UInt8 := 125

/-- Reads elements up to the closing brace; `number` is what the digits read last amount to. -/
def readElements (blank : UInt8 → Bool) (number : Option Nat) : Bytes → Option Bytes
  | [] => none
  | b :: rest =>
    match digit? b, number with
    | some d, _ => readElements blank (some (number.getD 0 * 10 + d)) rest
    | none, some n =>
      if b = 44 ∧ n < 256 then (readElements blank none rest).map (UInt8.ofNat n :: ·) else none
    | none, none =>
      if b = brace then some []
      else if blank b then readElements blank none rest
      else none

/-- The bytes of the module `name`, read from its C source text. -/
def read? (blank : UInt8 → Bool) (name : String) (text : Bytes) : Option Bytes :=
  match Text.stripPrefix? (header name) text with
  | none => none
  | some rest => readElements blank none rest

/-! How the reader takes the next byte. -/

variable {blank : UInt8 → Bool} {b : UInt8}

theorem readElements_of_digit {d : Nat} (h : digit? b = some d) (number : Option Nat)
    (rest : Bytes) :
    readElements blank number (b :: rest) =
      readElements blank (some (number.getD 0 * 10 + d)) rest := by
  simp only [readElements, h]

theorem readElements_of_blank (hdigit : digit? b = none) (hbrace : b ≠ brace)
    (hblank : blank b = true) (rest : Bytes) :
    readElements blank none (b :: rest) = readElements blank none rest := by
  simp only [readElements, hdigit, if_neg hbrace, if_pos hblank]

theorem readElements_comma {n : Nat} (h : n < 256) (rest : Bytes) :
    readElements blank (some n) (44 :: rest) =
      (readElements blank none rest).map (UInt8.ofNat n :: ·) := by
  have hcomma : digit? 44 = none := rfl
  simp only [readElements, hcomma, h, and_self, if_true]

theorem readElements_brace (rest : Bytes) :
    readElements blank none (brace :: rest) = some [] := by
  have hbrace : digit? brace = none := rfl
  simp only [readElements, hbrace, if_true]

end ShaderDriver.Dehydrated
