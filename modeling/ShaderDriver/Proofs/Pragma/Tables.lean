import ShaderDriver.Proofs.Pragma.Refusal

/-!
# ShaderDriver.Proofs.Pragma.Tables

**The order of the table does not matter.** How many tokens a pass takes depends very much on the
order in which the table holds them, and so does the number of passes. What a comment does depends
on it in no way: at most one token of the table stands at the end of a body, so there is one way of
cutting the body (`peel_eq_of_perm`), and the passes come to letting the tokens of this cut act.

`detectSingly` reads a comment by the plain loop, which takes one token at a time and stops where
none can be taken. It does the same, again with the table in any order.
-/

namespace ShaderDriver.Pragma

variable {β κ : Type} {table others : List Token}

/-- Lets the settings comment of a source act by the plain loop, one token at a time. -/
def detectSingly (table : List Token) (make : CapsFactory β κ) (source : Bytes)
    (selection : Selection β κ) : Except Stop Unit × Selection β κ :=
  match body? source with
  | none => (.ok (), selection)
  | some body => settleSingly make table body selection

/-! ### Tables in another order -/

theorem Unambiguous.perm (h : Unambiguous others) (hperm : table.Perm others) :
    Unambiguous table := by
  intro token htoken other hother
  exact h token (hperm.subset htoken) other (hperm.subset hother)

theorem Reads.perm {body rest : Bytes} {tokens : List Token}
    (h : Reads others body rest tokens) (hperm : table.Perm others) :
    Reads table body rest tokens where
  eq := h.eq
  mem_table token htoken := hperm.symm.subset (h.mem_table token htoken)
  not_suffix token htoken := h.not_suffix token (hperm.subset htoken)

/-- A body is cut in the same way, whatever the order of the table. -/
theorem peel_eq_of_perm (h : Unambiguous others) (hperm : table.Perm others) (body : Bytes) :
    peel table body = peel others body :=
  ((reads_peel others body).perm hperm).peel_eq (h.perm hperm)

section Perm

variable (h : Unambiguous others) (hperm : table.Perm others) (make : CapsFactory β κ)

include h hperm

theorem settle_eq_of_perm (body : Bytes) (selection : Selection β κ) :
    settle make table body selection = settle make others body selection := by
  rw [settle_eq (h.perm hperm), settle_eq h, peel_eq_of_perm h hperm]

theorem settleSingly_eq_of_perm (body : Bytes) (selection : Selection β κ) :
    settleSingly make table body selection = settle make others body selection := by
  rw [← settle_eq_settleSingly (h.perm hperm), settle_eq_of_perm h hperm]

theorem detectWith_eq_of_perm (source : Bytes) (selection : Selection β κ) :
    detectWith table make source selection = detectWith others make source selection := by
  unfold detectWith
  cases body? source with
  | none => rfl
  | some body => exact settle_eq_of_perm h hperm make body selection

theorem detectSingly_eq_of_perm (source : Bytes) (selection : Selection β κ) :
    detectSingly table make source selection = detectWith others make source selection := by
  unfold detectSingly detectWith
  cases body? source with
  | none => rfl
  | some body => exact settleSingly_eq_of_perm h hperm make body selection

end Perm

/-- **The passes agree with the plain loop, whatever the order of the table.** Reading a comment with
the recognized tokens in any order gives the outcome, the settings, the bundle and the cache that
their usual order gives, and has the same bundles built in the same order. Taking one token at a time
does so, too. The factory may be any, even one that breaks down. -/
theorem detect_of_any_table {table singly : List Token} (htable : table.Perm Token.all)
    (hsingly : singly.Perm Token.all) (make : CapsFactory β κ) (source : Bytes)
    (selection : Selection β κ) :
    detectWith table make source selection = detect make source selection ∧
    detectSingly singly make source selection = detect make source selection ∧
    namesBuilt (detectWith table make.recorded source) selection =
      namesBuilt (detect make.recorded source) selection ∧
    namesBuilt (detectSingly singly make.recorded source) selection =
      namesBuilt (detect make.recorded source) selection := by
  refine ⟨?_, ?_, ?_, ?_⟩
  · exact detectWith_eq_of_perm unambiguous_all htable make source selection
  · exact detectSingly_eq_of_perm unambiguous_all hsingly make source selection
  · rw [namesBuilt, detectWith_eq_of_perm unambiguous_all htable]
    rfl
  · rw [namesBuilt, detectSingly_eq_of_perm unambiguous_all hsingly]
    rfl

/-- A source whose comment holds a word that is no token. -/
def nopeSource : Bytes := utf8 "/*#pragma settings Sharpen Nope Version110 NoInline Default*/"

/-- With the table backwards, or with the changes of settings in front, as with the usual one: the
word that is no token is named, and what is behind it has acted. -/
theorem detect_of_any_table_reversed :
    Token.all.reverse.Perm Token.all ∧
    (Tweak.all.map Token.tweak ++ capsNames.map Token.caps).Perm Token.all ∧
    detectWith Token.all.reverse .named nopeSource (.fresh ()) =
      detectSingly (Tweak.all.map Token.tweak ++ capsNames.map Token.caps) .named nopeSource
        (.fresh ()) ∧
    (detectWith Token.all.reverse .named nopeSource (.fresh ())).1 =
      .error (.failed (.unrecognizedPragma (utf8 " Sharpen Nope"))) ∧
    namesBuilt (detectWith Token.all.reverse CapsFactory.named.recorded nopeSource) (.fresh ()) =
      ["Default", "Version110"] := by
  have hreverse : Token.all.reverse.Perm Token.all := List.reverse_perm Token.all
  have hswap : (Tweak.all.map Token.tweak ++ capsNames.map Token.caps).Perm Token.all :=
    List.perm_append_comm
  obtain ⟨hpasses, hplain, hbuilt, -⟩ :=
    detect_of_any_table hreverse hswap CapsFactory.named nopeSource (.fresh ())
  refine ⟨hreverse, hswap, hpasses.trans hplain.symm, ?_, ?_⟩
  · rw [hpasses]
    decide +kernel
  · rw [hbuilt]
    decide +kernel

end ShaderDriver.Pragma
