import ShaderDriver.Proofs.Pragma.Unambiguous

/-!
# ShaderDriver.Proofs.Pragma.Passes

**Passes take the tokens that the plain loop takes.** A pass goes through the table once and may
take several tokens, so how much it takes depends on the order of the table. If the table is
unambiguous, each token that a pass takes is the one that the plain loop `settleSingly` would take
next, and a pass that takes nothing has found what the plain loop stops at:
`settle_eq_settleSingly`.

The plain loop in turn reads the body with `peel` and lets the tokens act with `applyAll`, which
gives the whole loop in one equation: `settle_eq`.
-/

namespace ShaderDriver.Pragma

variable {β κ : Type} {make : CapsFactory β κ} {table : List Token}

/-! ### The plain loop, step by step -/

theorem settleSingly_of_none {rest : Bytes} (h : lastToken? table rest = none)
    (selection : Selection β κ) :
    settleSingly make table rest selection =
      if rest = [] then (.ok (), selection)
      else (.error (.failed (.unrecognizedPragma rest)), selection) := by
  rw [settleSingly]
  split
  · rfl
  · simp_all

theorem settleSingly_of_some {rest shorter : Bytes} {token : Token}
    (h : lastToken? table rest = some (token, shorter)) (selection : Selection β κ) :
    settleSingly make table rest selection =
      match token.apply make selection with
      | (.error crash, after) => (.error (.escaped (.crash crash)), after)
      | (.ok (), after) => settleSingly make table shorter after := by
  rw [settleSingly]
  split
  · simp_all
  · rename_i found other hfound
    obtain ⟨rfl, rfl⟩ : found = token ∧ other = shorter := by simpa [h, eq_comm] using hfound
    rfl

@[simp] theorem settleSingly_nil (selection : Selection β κ) :
    settleSingly make table [] selection = (.ok (), selection) := by
  rw [settleSingly_of_none (lastToken?_nil table), if_pos rfl]

/-! ### One pass -/

/-- A pass that leaves as much as there was has found none of its tokens. -/
theorem pass_eq_of_length_eq {rest left : Bytes} {selection after : Selection β κ}
    (h : pass make table rest selection = (.ok left, after)) (hlength : left.length = rest.length) :
    left = rest ∧ after = selection ∧ lastToken? table rest = none := by
  induction table generalizing rest selection with
  | nil => simp_all [pass, lastToken?, eq_comm]
  | cons token table ih =>
    simp only [pass] at h
    cases hstrip : Text.stripSuffix? token.spelling rest with
    | none =>
      rw [hstrip] at h
      obtain ⟨hleft, hafter, hlast⟩ := ih h hlength
      refine ⟨hleft, hafter, ?_⟩
      simp only [lastToken?] at hlast
      simp [lastToken?, hstrip, hlast]
    | some shorter =>
      -- A token that is taken makes the rest shorter for good.
      have hsplit := Text.stripSuffix?_eq_some_iff.mp hstrip
      rcases hact : token.apply make selection with ⟨crash | _, between⟩
      · simp [hstrip, hact] at h
      · simp only [hstrip, hact] at h
        have hle := length_le_of_pass h
        rw [hlength, hsplit, List.length_append, spelling_eq_cons, List.length_cons] at hle
        omega

/-- The plain loop goes on from where a pass ends; `narrow` is what the pass has yet to try. -/
theorem settleSingly_of_pass (h : Unambiguous table) {narrow : List Token} (hsub : narrow ⊆ table)
    (rest : Bytes) (selection : Selection β κ) :
    settleSingly make table rest selection =
      match pass make narrow rest selection with
      | (.error crash, after) => (.error (.escaped (.crash crash)), after)
      | (.ok left, after) => settleSingly make table left after := by
  induction narrow generalizing rest selection with
  | nil => rfl
  | cons token narrow ih =>
    have hnarrow : narrow ⊆ table := fun other hother => hsub (List.mem_cons_of_mem token hother)
    simp only [pass]
    cases hstrip : Text.stripSuffix? token.spelling rest with
    | none => exact ih hnarrow rest selection
    | some shorter =>
      have htoken : token ∈ table := hsub List.mem_cons_self
      have hlast := lastToken?_append_spelling h htoken shorter
      rw [← Text.stripSuffix?_eq_some_iff.mp hstrip] at hlast
      rw [settleSingly_of_some hlast]
      rcases token.apply make selection with ⟨crash | _, between⟩
      · rfl
      · exact ih hnarrow shorter between

/-! ### All passes -/

/-- Passes through an unambiguous table do what the plain loop does, whatever its order. -/
theorem settle_eq_settleSingly (h : Unambiguous table) (rest : Bytes)
    (selection : Selection β κ) :
    settle make table rest selection = settleSingly make table rest selection := by
  fun_induction settle make table rest selection with
  | case1 rest selection crash after hpass =>
    rw [settleSingly_of_pass h (List.Subset.refl table) rest selection, hpass]
  | case2 rest selection after hpass =>
    rw [settleSingly_of_pass h (List.Subset.refl table) rest selection, hpass]
    simp
  | case3 rest selection left after hpass hleft hlength =>
    obtain ⟨rfl, rfl, hlast⟩ := pass_eq_of_length_eq hpass hlength
    rw [settleSingly_of_none hlast, if_neg hleft]
  | case4 rest selection left after hpass hleft hlength ih =>
    rw [ih, settleSingly_of_pass h (List.Subset.refl table) rest selection, hpass]

theorem applyAll_append (first last : List Token) (selection : Selection β κ) :
    applyAll make (first ++ last) selection =
      match applyAll make last selection with
      | (.ok (), after) => applyAll make first after
      | (.error crash, after) => (.error crash, after) := by
  induction first with
  | nil =>
    rw [List.nil_append]
    rcases applyAll make last selection with ⟨crash | _, after⟩ <;> rfl
  | cons token first ih =>
    rw [List.cons_append, applyAll, ih]
    rcases applyAll make last selection with ⟨crash | _, after⟩ <;> simp [applyAll]

/-- The plain loop reads the body and lets its tokens act, the last one first. -/
theorem settleSingly_eq (rest : Bytes) (selection : Selection β κ) :
    settleSingly make table rest selection =
      match applyAll make (peel table rest).2 selection with
      | (.error crash, after) => (.error (.escaped (.crash crash)), after)
      | (.ok (), after) =>
        if (peel table rest).1 = [] then (.ok (), after)
        else (.error (.failed (.unrecognizedPragma (peel table rest).1)), after) := by
  fun_induction settleSingly make table rest selection with
  | case1 selection hlast => simp [peel_of_none hlast, applyAll]
  | case2 rest selection hlast hrest => simp [peel_of_none hlast, applyAll, hrest]
  | case3 rest selection token shorter hlast crash after hact =>
    rw [peel_of_some hlast, applyAll_append]
    simp [applyAll, hact]
  | case4 rest selection token shorter hlast after hact ih =>
    rw [peel_of_some hlast, applyAll_append, ih]
    simp [applyAll, hact]

/-- **What the passes come to.** The tokens behind the last unrecognized word act, the last one
first, and what is in front of them is refused unless it is empty. -/
theorem settle_eq (h : Unambiguous table) (rest : Bytes) (selection : Selection β κ) :
    settle make table rest selection =
      match applyAll make (peel table rest).2 selection with
      | (.error crash, after) => (.error (.escaped (.crash crash)), after)
      | (.ok (), after) =>
        if (peel table rest).1 = [] then (.ok (), after)
        else (.error (.failed (.unrecognizedPragma (peel table rest).1)), after) := by
  rw [settle_eq_settleSingly h, settleSingly_eq]

end ShaderDriver.Pragma
