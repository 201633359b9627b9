import Mathlib.Data.List.Induction
import ShaderDriver.Pragma.Grammar

/-!
# ShaderDriver.Proofs.Pragma.Unambiguous

**A body can be read as tokens in one way only.** A token is spelled with a space in front and holds
none itself, so the last space of a body tells where its last token starts, and the table holds no
two tokens of the same word. `Unambiguous` says what the passes need of a table: at most one of its
tokens stands at the end of a body. From this follow, for `peel` and `render`:

* `peel_append_render`: reading a body gives back the tokens it was written from;
* `peel_fst_eq_nil_iff`: nothing is left exactly of the bodies that are written from tokens;
* `render_injective`: no body is written from two lists of tokens.
-/

namespace ShaderDriver.Pragma

/-! ### Cutting at the last space -/

/-- Two ways of cutting a sequence at its last `a` are the same. -/
theorem append_cons_inj_of_notMem_tail {α : Type} {a : α} {xs ys v w : List α} (hv : a ∉ v)
    (hw : a ∉ w) (h : xs ++ a :: v = ys ++ a :: w) : xs = ys ∧ v = w := by
  rcases List.append_eq_append_iff.mp h with ⟨mid, rfl, hmid⟩ | ⟨mid, rfl, hmid⟩
  · cases mid with
    | nil => simpa using hmid
    | cons b mid =>
      rw [List.cons_append, List.cons.injEq] at hmid
      exact absurd (hmid.2 ▸ by simp) hv
  · cases mid with
    | nil => simpa [eq_comm] using hmid
    | cons b mid =>
      rw [List.cons_append, List.cons.injEq] at hmid
      exact absurd (hmid.2 ▸ by simp) hw

/-- At most one token of the table stands at the end of a body. -/
def Unambiguous (table : List Token) : Prop :=
  ∀ token ∈ table, ∀ other ∈ table, ∀ left right : Bytes,
    left ++ token.spelling = right ++ other.spelling → token = other

/-- A table is unambiguous if its words hold no space and are those of one token each. -/
theorem unambiguous_of_words {table : List Token}
    (hspace : ∀ token ∈ table, space ∉ utf8 token.word)
    (hword : ∀ token ∈ table, ∀ other ∈ table, utf8 token.word = utf8 other.word → token = other) :
    Unambiguous table := by
  intro token htoken other hother left right h
  rw [spelling_eq_cons, spelling_eq_cons] at h
  obtain ⟨-, hsame⟩ :=
    append_cons_inj_of_notMem_tail (hspace token htoken) (hspace other hother) h
  exact hword token htoken other hother hsame

/-- The recognized tokens are unambiguous, although some of their words end in others. -/
theorem unambiguous_all : Unambiguous Token.all :=
  unambiguous_of_words (by decide) (by decide)

/-! ### The last token -/

theorem mem_of_lastToken? {table : List Token} {rest shorter : Bytes} {token : Token}
    (h : lastToken? table rest = some (token, shorter)) : token ∈ table := by
  obtain ⟨other, hother, hfound⟩ := List.exists_of_findSome?_eq_some h
  simp only [Option.map_eq_some_iff, Prod.mk.injEq] at hfound
  obtain ⟨left, -, rfl, rfl⟩ := hfound
  exact hother

/-- No token can be taken exactly from a body that ends in none. -/
theorem lastToken?_eq_none_iff {table : List Token} {rest : Bytes} :
    lastToken? table rest = none ↔ ∀ token ∈ table, ∀ left, rest ≠ left ++ token.spelling := by
  simp only [lastToken?, List.findSome?_eq_none_iff, Option.map_eq_none_iff]
  refine forall₂_congr fun token _ => ?_
  constructor
  · rintro hnone left rfl
    simp at hnone
  · intro hne
    cases hstrip : Text.stripSuffix? token.spelling rest with
    | none => rfl
    | some left => exact absurd (Text.stripSuffix?_eq_some_iff.mp hstrip) (hne left)

@[simp] theorem lastToken?_nil (table : List Token) : lastToken? table [] = none := by
  rw [lastToken?_eq_none_iff]
  intro token _ left
  simp [spelling_eq_cons]

theorem lastToken?_append_spelling {table : List Token} (h : Unambiguous table) {token : Token}
    (htoken : token ∈ table) (left : Bytes) :
    lastToken? table (left ++ token.spelling) = some (token, left) := by
  cases hlast : lastToken? table (left ++ token.spelling) with
  | none => exact absurd rfl (lastToken?_eq_none_iff.mp hlast token htoken left)
  | some found =>
    obtain ⟨other, shorter⟩ := found
    have hsplit := eq_append_of_lastToken? hlast
    obtain rfl := h token htoken other (mem_of_lastToken? hlast) left shorter hsplit
    rw [List.append_cancel_right hsplit]

/-! ### Reading what was written -/

theorem peel_of_none {table : List Token} {rest : Bytes} (h : lastToken? table rest = none) :
    peel table rest = (rest, []) := by
  rw [peel]
  split
  · rfl
  · simp_all

theorem peel_of_some {table : List Token} {rest shorter : Bytes} {token : Token}
    (h : lastToken? table rest = some (token, shorter)) :
    peel table rest = ((peel table shorter).1, (peel table shorter).2 ++ [token]) := by
  rw [peel]
  split
  · simp_all
  · rename_i found other hfound
    obtain ⟨rfl, rfl⟩ : found = token ∧ other = shorter := by simpa [h, eq_comm] using hfound
    rfl

/-- Reading takes tokens of the table only. -/
theorem mem_table_of_mem_peel {table : List Token} {rest : Bytes} {token : Token}
    (h : token ∈ (peel table rest).2) : token ∈ table := by
  fun_induction peel table rest with
  | case1 => simp at h
  | case2 rest last shorter hlast left tokens hpeel ih =>
    rw [List.mem_append, List.mem_singleton] at h
    rcases h with h | rfl
    · exact ih (by rw [hpeel]; exact h)
    · exact mem_of_lastToken? hlast

/-- Tokens written behind a body are read first, and then the body. -/
theorem peel_append_render {table : List Token} (h : Unambiguous table) (left : Bytes)
    {tokens : List Token} (htokens : ∀ token ∈ tokens, token ∈ table) :
    peel table (left ++ render tokens) =
      ((peel table left).1, (peel table left).2 ++ tokens) := by
  -- The last token is the first to be read, so the induction adds tokens at the end.
  induction tokens using List.reverseRecOn with
  | nil => simp
  | append_singleton tokens token ih =>
    have hrest := ih fun other hother => htokens other (by simp [hother])
    have hlast := lastToken?_append_spelling h (htokens token (by simp)) (left ++ render tokens)
    rw [render_append, render_singleton, ← List.append_assoc, peel_of_some hlast, hrest]
    simp

theorem peel_render {table : List Token} (h : Unambiguous table) {tokens : List Token}
    (htokens : ∀ token ∈ tokens, token ∈ table) : peel table (render tokens) = ([], tokens) := by
  have hread := peel_append_render h [] htokens
  rw [peel_of_none (lastToken?_nil table)] at hread
  simpa using hread

/-- Nothing is left of a body exactly if it is written from tokens. -/
theorem peel_fst_eq_nil_iff {table : List Token} (h : Unambiguous table) {rest : Bytes} :
    (peel table rest).1 = [] ↔
      ∃ tokens, (∀ token ∈ tokens, token ∈ table) ∧ rest = render tokens := by
  constructor
  · intro hnil
    refine ⟨(peel table rest).2, fun token => mem_table_of_mem_peel, ?_⟩
    have hread := peel_eq table rest
    rw [hnil, List.nil_append] at hread
    exact hread.symm
  · rintro ⟨tokens, htokens, rfl⟩
    rw [peel_render h htokens]

/-- A body is written from one list of tokens at most. -/
theorem render_injective {table : List Token} (h : Unambiguous table) {tokens others : List Token}
    (htokens : ∀ token ∈ tokens, token ∈ table) (hothers : ∀ token ∈ others, token ∈ table)
    (heq : render tokens = render others) : tokens = others := by
  have hread := peel_render h htokens
  rw [heq, peel_render h hothers] at hread
  exact (Prod.mk.inj hread).2.symm

end ShaderDriver.Pragma
