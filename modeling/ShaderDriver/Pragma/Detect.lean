import ShaderDriver.Pragma.Comment
import ShaderDriver.Pragma.Token

/-!
# ShaderDriver.Pragma.Detect

**Letting a settings comment act.** Tokens are taken from the end of the body, in passes. A pass
goes once through the table of tokens and takes every token that stands at the end of what is left
when its turn comes. Passes are made until nothing is left; a pass that takes nothing means that
what is left ends in something that is no token.

Each token acts when it is taken. What the tokens before an unrecognized word have done is therefore
kept in the selection, although the comment as a whole is refused.
-/

namespace ShaderDriver.Pragma

variable {β κ : Type}

/-- One pass through `table` over the rest of a body: the answer is what is still left. -/
def pass (make : CapsFactory β κ) :
    List Token → Bytes → Selection β κ → Except Crash Bytes × Selection β κ
  | [], rest, selection => (.ok rest, selection)
  | token :: table, rest, selection =>
    match Text.stripSuffix? token.spelling rest with
    | none => pass make table rest selection
    | some shorter =>
      match token.apply make selection with
      | (.ok (), selection) => pass make table shorter selection
      | (.error crash, selection) => (.error crash, selection)

/-- A pass never adds to what is left. -/
theorem length_le_of_pass {make : CapsFactory β κ} {table : List Token} {rest left : Bytes}
    {selection after : Selection β κ} (h : pass make table rest selection = (.ok left, after)) :
    left.length ≤ rest.length := by
  induction table generalizing rest selection with
  | nil =>
    simp only [pass, Prod.mk.injEq, Except.ok.injEq] at h
    simp [h.1]
  | cons token table ih =>
    simp only [pass] at h
    split at h
    · exact ih h
    · rename_i shorter hshorter
      split at h
      · exact Nat.le_trans (ih h) (Text.length_le_of_stripSuffix? hshorter)
      · simp at h

/-- Makes passes through `table` until nothing is left, or a pass takes nothing. -/
def settle (make : CapsFactory β κ) (table : List Token) (rest : Bytes)
    (selection : Selection β κ) : Except Stop Unit × Selection β κ :=
  match _h : pass make table rest selection with
  | (.error crash, selection) => (.error (.escaped (.crash crash)), selection)
  | (.ok left, selection) =>
    if left = [] then (.ok (), selection)
    else if left.length = rest.length then
      (.error (.failed (.unrecognizedPragma left)), selection)
    else settle make table left selection
termination_by rest.length
decreasing_by
  have := length_le_of_pass _h
  omega

/-- Lets the settings comment of a source act, by the tokens of a table. A source without one leaves
the selection as it is. -/
def detectWith (table : List Token) (make : CapsFactory β κ) (source : Bytes)
    (selection : Selection β κ) : Except Stop Unit × Selection β κ :=
  match body? source with
  | none => (.ok (), selection)
  | some body => settle make table body selection

/-- Lets the settings comment of a source act. -/
def detect (make : CapsFactory β κ) (source : Bytes) (selection : Selection β κ) :
    Except Stop Unit × Selection β κ :=
  detectWith Token.all make source selection

end ShaderDriver.Pragma
