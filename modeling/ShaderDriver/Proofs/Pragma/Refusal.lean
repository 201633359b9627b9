import ShaderDriver.Proofs.Pragma.Meaning

/-!
# ShaderDriver.Proofs.Pragma.Refusal

**What a settings comment has done when it is refused.** A body that is not written from tokens may
still end in some. `Reads` cuts it into a rest, which ends in no token, and the tokens behind that;
every body can be cut so in exactly one way, which is that of `peel` (`Reads.peel_eq`).

The rest is what the refusal names. The tokens behind it have acted, the last one first, and they
alone: the rest can be exchanged for any other that ends in no token, with the same effect.
-/

namespace ShaderDriver

variable {β κ : Type} {make : CapsFactory β κ}

namespace Pragma

/-! ### Cutting a body -/

/-- The body consists of a rest that ends in no token of the table, and of tokens behind it. -/
structure Reads (table : List Token) (body rest : Bytes) (tokens : List Token) : Prop where
  eq : body = rest ++ render tokens
  mem_table : ∀ token ∈ tokens, token ∈ table
  not_suffix : ∀ token ∈ table, ¬ token.spelling <:+ rest

theorem lastToken?_eq_none_iff_not_suffix {table : List Token} {rest : Bytes} :
    lastToken? table rest = none ↔ ∀ token ∈ table, ¬ token.spelling <:+ rest := by
  rw [lastToken?_eq_none_iff]
  refine forall₂_congr fun token _ => ?_
  constructor
  · rintro hne ⟨left, hleft⟩
    exact hne left hleft.symm
  · rintro hsuffix left rfl
    exact hsuffix (List.suffix_append left token.spelling)

/-- Reading a body stops where no token can be taken. -/
theorem lastToken?_peel (table : List Token) (body : Bytes) :
    lastToken? table (peel table body).1 = none := by
  fun_induction peel table body with
  | case1 rest hnone => exact hnone
  | case2 rest token shorter hlast left tokens hpeel ih => rwa [hpeel] at ih

/-- Every body can be cut. -/
theorem reads_peel (table : List Token) (body : Bytes) :
    Reads table body (peel table body).1 (peel table body).2 where
  eq := (peel_eq table body).symm
  mem_table _ := mem_table_of_mem_peel
  not_suffix := lastToken?_eq_none_iff_not_suffix.mp (lastToken?_peel table body)

/-- There is no other way of cutting a body. -/
theorem Reads.peel_eq {table : List Token} (h : Unambiguous table) {body rest : Bytes}
    {tokens : List Token} (hreads : Reads table body rest tokens) :
    peel table body = (rest, tokens) := by
  have hrest := peel_of_none (lastToken?_eq_none_iff_not_suffix.mpr hreads.not_suffix)
  rw [hreads.eq, peel_append_render h rest hreads.mem_table, hrest, List.nil_append]

/-- A body that starts with a space is refused with a rest that does, unless nothing is left. -/
theorem head?_peel {table : List Token} {body : Bytes} (hbody : body.head? = some space)
    (hrest : (peel table body).1 ≠ []) : (peel table body).1.head? = some space := by
  rw [← Pragma.peel_eq table body, List.head?_append, List.head?_eq_some_head hrest] at hbody
  rw [List.head?_eq_some_head hrest]
  exact hbody

/-! ### What the tokens behind the rest have done -/

/-- The settings after a token has acted. Only a tweak changes them. -/
def Token.tweaked (token : Token) (settings : Settings) : Settings :=
  match token with
  | .caps _ => settings
  | .tweak change => change.apply settings

/-- What tokens mean for the settings is what they make of them one by one, the last one first. -/
theorem withTokens_eq_foldr (settings : Settings) (tokens : List Token) :
    settings.withTokens tokens = tokens.foldr Token.tweaked settings := by
  induction tokens with
  | nil => simp [Settings.withTokens]
  | cons token tokens ih =>
    rw [List.foldr_cons, ← ih]
    cases token with
    | caps name => exact settings.withTokens_cons_caps name tokens
    | tweak change => exact settings.withTokens_cons_tweak change tokens

end Pragma

/-- Building bundles leaves what is held for other names. -/
theorem CapsCache.find?_buildAll_of_notMem {cache : CapsCache β κ} {names : List String}
    {name : String} (h : name ∉ names) :
    (cache.buildAll make names).find? name = cache.find? name := by
  induction names generalizing cache with
  | nil => rfl
  | cons first names ih =>
    rw [List.mem_cons, not_or] at h
    rw [buildAll_cons, ih h.2, find?_build_of_ne (Ne.symm h.1)]

namespace Pragma

/-- **A refusal is exact.** If the body of a comment is not written from one or more recognized
tokens, it can be cut in one way only into a rest that ends in no token and the tokens behind it. The
comment is refused with the rest, which starts with a space; the settings are changed by the tokens,
from right to left, and the cache has gained the bundles among them that it did not hold. What the
rest holds has no effect: any comment that is cut into some rest and these tokens does the same. -/
theorem refuses_exactly (hmake : make.GivesBundles) {source body : Bytes}
    (hbody : body? source = some body)
    (hunread : ¬ ∃ tokens, tokens ≠ [] ∧ (∀ token ∈ tokens, token ∈ Token.all) ∧
      body = render tokens)
    (selection : Selection β κ) :
    ∃ rest tokens after,
      (Reads Token.all body rest tokens ∧ rest ≠ [] ∧ rest.head? = some space) ∧
      (∀ other others, Reads Token.all body other others → other = rest ∧ others = tokens) ∧
      detect make source selection = (.error (.failed (.unrecognizedPragma rest)), after) ∧
      ((Failure.unrecognizedPragma rest).category = .pragma ∧
        (Failure.unrecognizedPragma rest).message =
          utf8 "Unrecognized #pragma settings: " ++ rest) ∧
      after.settings = tokens.foldr Token.tweaked selection.settings ∧
      after.cache =
        selection.cache.buildAll make (selection.cache.missing (capsNamesMet tokens)) ∧
      (∀ name, (after.cache.find? name).isSome ↔
        (selection.cache.find? name).isSome ∨ .caps name ∈ tokens) ∧
      (∀ name, (selection.cache.find? name).isSome ∨ .caps name ∉ tokens →
        after.cache.find? name = selection.cache.find? name) ∧
      ∀ elsewhere other otherRest, body? elsewhere = some other →
        Reads Token.all other otherRest tokens → (detect make elsewhere selection).2 = after := by
  have hreads := reads_peel Token.all body
  have hspace : body.head? = some space := by
    obtain ⟨rest, rfl⟩ := exists_eq_cons_of_body? hbody
    rfl
  have hrest : (peel Token.all body).1 ≠ [] := mt (peel_eq_nil_iff_of_body? hbody).mp hunread
  refine ⟨_, _, selection.withTokens make (peel Token.all body).2,
    ⟨hreads, hrest, head?_peel hspace hrest⟩, ?_, ?_, ⟨rfl, rfl⟩, ?_, rfl, ?_, ?_, ?_⟩
  · intro other others hother
    have hsame := hother.peel_eq unambiguous_all
    exact ⟨by rw [hsame], by rw [hsame]⟩
  · rw [detect_eq hmake hbody, if_neg hrest]
  · exact withTokens_eq_foldr _ _
  · intro name
    rw [← mem_capsNamesMet]
    exact CapsCache.isSome_find?_buildAll_missing hmake selection.cache _ name
  · intro name hkept
    refine CapsCache.find?_buildAll_of_notMem fun hmissing => ?_
    obtain ⟨hmet, hnone⟩ := CapsCache.mem_missing.mp hmissing
    rcases hkept with hheld | hnotMem
    · rw [hnone] at hheld
      cases hheld
    · exact hnotMem (mem_capsNamesMet.mp hmet)
  · intro elsewhere other otherRest helsewhere hother
    rw [detect_eq hmake helsewhere, hother.peel_eq unambiguous_all]

/-- A recognized word on either side of one that is not: only what is behind it has acted. -/
theorem refuses_exactly_midway :
    CapsFactory.named.GivesBundles ∧
    body? (utf8 "/*#pragma settings Sharpen  Default Bogus FlipY Version110 NoInline*/") =
      some (utf8 " Sharpen  Default Bogus FlipY Version110 NoInline") ∧
    (detect .named (utf8 "/*#pragma settings Sharpen  Default Bogus FlipY Version110 NoInline*/")
        { settings := {}, caps := none, cache := { factory := () } }).1 =
      .error (.failed (.unrecognizedPragma (utf8 " Sharpen  Default Bogus"))) ∧
    (detect .named (utf8 "/*#pragma settings Sharpen  Default Bogus FlipY Version110 NoInline*/")
        { settings := {}, caps := none, cache := { factory := () } }).2.settings =
      { flipY := true, inlineThreshold := 0 } := by
  have hbody :
      body? (utf8 "/*#pragma settings Sharpen  Default Bogus FlipY Version110 NoInline*/") =
        some (utf8 " Sharpen  Default Bogus FlipY Version110 NoInline") := by decide +kernel
  have hreads : Reads Token.all (utf8 " Sharpen  Default Bogus FlipY Version110 NoInline")
      (utf8 " Sharpen  Default Bogus") [.tweak .flipY, .caps "Version110", .tweak .noInline] :=
    ⟨by decide, by decide, by decide⟩
  have hunread : ¬ ∃ tokens, tokens ≠ [] ∧ (∀ token ∈ tokens, token ∈ Token.all) ∧
      utf8 " Sharpen  Default Bogus FlipY Version110 NoInline" = render tokens := by
    rw [← peel_eq_nil_iff_of_body? hbody, hreads.peel_eq unambiguous_all]
    decide
  obtain ⟨rest, tokens, after, -, hunique, hdetect, -, hsettings, -⟩ :=
    refuses_exactly CapsFactory.givesBundles_named hbody hunread
      { settings := {}, caps := none, cache := { factory := () } }
  obtain ⟨rfl, rfl⟩ := hunique _ _ hreads
  rw [hdetect]
  exact ⟨CapsFactory.givesBundles_named, hbody, rfl, hsettings⟩

end Pragma

end ShaderDriver
