import ShaderDriver.Pragma.Detect

/-!
# ShaderDriver.Pragma.Grammar

**The settings comment as a list of tokens.** The passes of `settle` never look at a comment as a
whole. Read as a list of tokens, its body is said in three definitions:

* `render` writes tokens as the body of a comment;
* `peel` reads a body from its end: it is whatever is no token, followed by tokens (`peel_eq`);
* `applyAll` lets a list of tokens act, the last one first.

`settleSingly` is the plain loop: it takes one token at a time, and stops where none can be taken.
-/

namespace ShaderDriver.Pragma

variable {β κ : Type}

/-- Tokens written as the body of a comment. -/
def render (tokens : List Token) : Bytes := tokens.flatMap Token.spelling

@[simp] theorem render_nil : render [] = [] := rfl

@[simp] theorem render_append (first last : List Token) :
    render (first ++ last) = render first ++ render last := by
  simp [render]

@[simp] theorem render_singleton (token : Token) : render [token] = token.spelling := by
  simp [render]

/-- Lets tokens act, the last one first, up to the first that breaks down. -/
def applyAll (make : CapsFactory β κ) :
    List Token → Selection β κ → Except Crash Unit × Selection β κ
  | [], selection => (.ok (), selection)
  | token :: tokens, selection =>
    match applyAll make tokens selection with
    | (.ok (), selection) => token.apply make selection
    | (.error crash, selection) => (.error crash, selection)

/-! ### Taking tokens from the end -/

/-- The first token of a table that stands at the end of `rest`, and what is in front of it. -/
def lastToken? (table : List Token) (rest : Bytes) : Option (Token × Bytes) :=
  table.findSome? fun token => (Text.stripSuffix? token.spelling rest).map (token, ·)

theorem eq_append_of_lastToken? {table : List Token} {rest shorter : Bytes} {token : Token}
    (h : lastToken? table rest = some (token, shorter)) : rest = shorter ++ token.spelling := by
  obtain ⟨other, -, hother⟩ := List.exists_of_findSome?_eq_some h
  simp only [Option.map_eq_some_iff, Prod.mk.injEq] at hother
  obtain ⟨left, hleft, rfl, rfl⟩ := hother
  exact Text.stripSuffix?_eq_some_iff.mp hleft

/-- A token is spelled with a space in front. -/
theorem spelling_eq_cons (token : Token) : token.spelling = space :: utf8 token.word := by
  simp only [Token.spelling, utf8_append]
  rfl

theorem length_lt_of_lastToken? {table : List Token} {rest shorter : Bytes} {token : Token}
    (h : lastToken? table rest = some (token, shorter)) : shorter.length < rest.length := by
  rw [eq_append_of_lastToken? h, spelling_eq_cons]
  simp

/-- Reads a body from its end: what is left when no more tokens of the table can be taken, and the
tokens behind it. -/
def peel (table : List Token) (rest : Bytes) : Bytes × List Token :=
  match _h : lastToken? table rest with
  | none => (rest, [])
  | some (token, shorter) =>
    let (left, tokens) := peel table shorter
    (left, tokens ++ [token])
termination_by rest.length
decreasing_by exact length_lt_of_lastToken? _h

/-- Nothing is lost in reading a body. -/
theorem peel_eq (table : List Token) (rest : Bytes) :
    (peel table rest).1 ++ render (peel table rest).2 = rest := by
  fun_induction peel table rest with
  | case1 => simp
  | case2 rest token shorter h left tokens hpeel ih =>
    rw [hpeel] at ih
    simp only [render_append, render_singleton, ← List.append_assoc] at ih ⊢
    rw [ih, ← eq_append_of_lastToken? h]

/-- Takes one token at a time until none can be taken. -/
def settleSingly (make : CapsFactory β κ) (table : List Token) (rest : Bytes)
    (selection : Selection β κ) : Except Stop Unit × Selection β κ :=
  match _h : lastToken? table rest with
  | none =>
    if rest = [] then (.ok (), selection)
    else (.error (.failed (.unrecognizedPragma rest)), selection)
  | some (token, shorter) =>
    match token.apply make selection with
    | (.error crash, selection) => (.error (.escaped (.crash crash)), selection)
    | (.ok (), selection) => settleSingly make table shorter selection
termination_by rest.length
decreasing_by exact length_lt_of_lastToken? _h

end ShaderDriver.Pragma
