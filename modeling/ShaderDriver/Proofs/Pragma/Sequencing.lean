import ShaderDriver.Proofs.Pragma.Refusal

/-!
# ShaderDriver.Proofs.Pragma.Sequencing

**Tokens behind a body are a comment that came before it.** A comment is read from its end. So what
is written behind a body acts first, and what the body does then is what it would do alone, from the
selection that it finds: a body with tokens behind it does what the tokens do, followed by what the
body does. This holds of any body, also of one that is refused.

Acting twice is acting once: flags are set already, the leftmost threshold and the leftmost bundle
are those that are there, and no bundle is missing any more.
-/

namespace ShaderDriver

variable {β κ : Type} {make : CapsFactory β κ}

open Pragma (Token)

/-! ### What tokens mean, one list after the other -/

/-- Tokens that have acted on settings leave them as they are when they act again. -/
theorem Settings.withTokens_withTokens_self (settings : Settings) (tokens : List Token) :
    (settings.withTokens tokens).withTokens tokens = settings.withTokens tokens := by
  cases hthreshold : tokens.findSome? Token.threshold? <;>
    simp [withTokens, hthreshold]

namespace Pragma

theorem capsNamesMet_append (first last : List Token) :
    capsNamesMet (first ++ last) = capsNamesMet last ++ capsNamesMet first := by
  simp [capsNamesMet]

namespace Selection

/-- The tokens behind others act before them. -/
theorem withTokens_append (hmake : make.GivesBundles) (selection : Selection β κ)
    (first last : List Token) :
    selection.withTokens make (first ++ last) =
      (selection.withTokens make last).withTokens make first := by
  have happly : applyAll make (first ++ last) selection = _ :=
    applyAll_append first last selection
  simpa only [applyAll_eq hmake, Prod.mk.injEq, true_and] using happly

/-- Tokens that have acted do nothing when they act again, neither on the bundle they selected nor
on the one that was selected before them. -/
theorem withTokens_again (hmake : make.GivesBundles) (selection : Selection β κ)
    (tokens : List Token) {caps : Option β}
    (hcaps : caps = selection.caps ∨ caps = (selection.withTokens make tokens).caps) :
    ({ selection.withTokens make tokens with caps } : Selection β κ).withTokens make tokens =
      selection.withTokens make tokens := by
  have hcache : (selection.withTokens make tokens).cache.missing (capsNamesMet tokens) = [] :=
    CapsCache.missing_buildAll_missing hmake selection.cache (capsNamesMet tokens)
  simp only [withTokens] at hcache hcaps ⊢
  rw [hcache, CapsCache.buildAll_nil, Settings.withTokens_withTokens_self]
  cases hname : tokens.findSome? Token.capsName? with
  | none =>
    simp only [hname, or_self] at hcaps
    rw [hcaps]
  | some name => rfl

end Selection

/-! ### Tokens written behind a body -/

theorem head?_render {tokens : List Token} (h : tokens ≠ []) :
    (render tokens).head? = some space := by
  cases tokens with
  | nil => exact absurd rfl h
  | cons token tokens => simp [render, spelling_eq_cons]

/-- No word holds a slash. -/
theorem slash_notMem_render {tokens : List Token} (h : ∀ token ∈ tokens, token ∈ Token.all) :
    47 ∉ render tokens := by
  have hspelling : ∀ token ∈ Token.all, 47 ∉ token.spelling := by decide
  intro hslash
  obtain ⟨token, htoken, hmem⟩ := List.mem_flatMap.mp hslash
  exact hspelling token (h token htoken) hmem

theorem body?_comment_append_render {body : Bytes} (hhead : body.head? = some space)
    (hclosing : ¬ closing <:+: body) {tokens : List Token}
    (h : ∀ token ∈ tokens, token ∈ Token.all) :
    body? (comment (body ++ render tokens)) = some (body ++ render tokens) := by
  refine body?_comment ?_ fun hends => hclosing ?_
  · rw [List.head?_append, hhead]
    rfl
  · exact closing_infix_of_append (slash_notMem_render h) hends

theorem body?_comment_render {tokens : List Token} (hne : tokens ≠ [])
    (h : ∀ token ∈ tokens, token ∈ Token.all) :
    body? (comment (render tokens)) = some (render tokens) := by
  refine body?_comment (head?_render hne) fun hends => ?_
  exact slash_notMem_render h (hends.subset (by decide))

section GivesBundles

variable {tokens : List Token} (hmake : make.GivesBundles)

include hmake

/-- A comment written from tokens lets them act. -/
theorem detect_comment_render (hne : tokens ≠ []) (h : ∀ token ∈ tokens, token ∈ Token.all)
    (selection : Selection β κ) :
    detect make (comment (render tokens)) selection =
      (.ok (), selection.withTokens make tokens) := by
  rw [detect_eq hmake (body?_comment_render hne h), peel_render unambiguous_all h, if_pos rfl]

/-- Tokens behind a body act before the body is read. -/
theorem detect_comment_append_render {body : Bytes} (hhead : body.head? = some space)
    (hclosing : ¬ closing <:+: body) (h : ∀ token ∈ tokens, token ∈ Token.all)
    (selection : Selection β κ) :
    detect make (comment (body ++ render tokens)) selection =
      detect make (comment body) (selection.withTokens make tokens) := by
  rw [detect_eq hmake (body?_comment_append_render hhead hclosing h),
    detect_eq hmake (body?_comment hhead hclosing), peel_append_render unambiguous_all body h,
    Selection.withTokens_append hmake]

/-- What the tokens are short of is built first, and then what the body is short of. -/
theorem namesBuilt_comment_append_render {body : Bytes} (hhead : body.head? = some space)
    (hclosing : ¬ closing <:+: body) (hne : tokens ≠ [])
    (h : ∀ token ∈ tokens, token ∈ Token.all) (selection : Selection β κ) :
    namesBuilt (detect make.recorded (comment (body ++ render tokens))) selection =
      namesBuilt (detect make.recorded (comment (render tokens))) selection ++
        namesBuilt (detect make.recorded (comment body)) (selection.withTokens make tokens) := by
  rw [namesBuilt_detect hmake (body?_comment_append_render hhead hclosing h),
    namesBuilt_detect hmake (body?_comment_render hne h),
    namesBuilt_detect hmake (body?_comment hhead hclosing), peel_append_render unambiguous_all body h,
    peel_render unambiguous_all h, capsNamesMet_append, CapsCache.missing_append hmake]
  rfl

/-- A comment that is read once more, from the selection it has left, does nothing. A comment that
was refused has selected no bundle, so the one from before it may still be in use. -/
theorem detect_again (source : Bytes) (selection : Selection β κ) {caps : Option β}
    (hcaps : caps = selection.caps ∨ caps = (detect make source selection).2.caps) :
    detect make source { (detect make source selection).2 with caps } =
        detect make source selection ∧
      namesBuilt (detect make.recorded source) { (detect make source selection).2 with caps } =
        [] := by
  cases hbody : body? source with
  | none =>
    simp only [detect_of_body?_eq_none hbody, or_self] at hcaps ⊢
    subst hcaps
    refine ⟨rfl, ?_⟩
    rw [namesBuilt, detect_of_body?_eq_none hbody]
    rfl
  | some body =>
    have hafter : (detect make source selection).2 =
        selection.withTokens make (peel Token.all body).2 := by
      rw [detect_eq hmake hbody]
    rw [hafter] at hcaps ⊢
    constructor
    · rw [detect_eq hmake hbody, detect_eq hmake hbody, selection.withTokens_again hmake _ hcaps]
    · rw [namesBuilt_detect hmake hbody]
      exact CapsCache.missing_buildAll_missing hmake selection.cache _

end GivesBundles

/-- **A body with tokens behind it does what the tokens do, followed by what the body does.** This is
so of every body that can be written as a comment, recognized or not: the outcome is the same, the
settings, the bundle and the cache are the same, and the same bundles are built in the same order.

Consequently a source that is read again does nothing, whether its comment is accepted or not: the
outcome and all that it leaves are those of the first time, and no bundle is built. The bundle in use
is then the one that the first reading has left or, as it is after a refusal, the one from before. -/
theorem detect_sequences (hmake : make.GivesBundles) {body : Bytes}
    (hhead : body.head? = some space) (hclosing : ¬ closing <:+: body) {tokens : List Token}
    (hne : tokens ≠ []) (h : ∀ token ∈ tokens, token ∈ Token.all) (selection : Selection β κ) :
    (∃ after, detect make (comment (render tokens)) selection = (.ok (), after) ∧
      detect make (comment (body ++ render tokens)) selection =
        detect make (comment body) after ∧
      namesBuilt (detect make.recorded (comment (body ++ render tokens))) selection =
        namesBuilt (detect make.recorded (comment (render tokens))) selection ++
          namesBuilt (detect make.recorded (comment body)) after) ∧
    ∀ source caps, caps = selection.caps ∨ caps = (detect make source selection).2.caps →
      detect make source { (detect make source selection).2 with caps } =
        detect make source selection ∧
      namesBuilt (detect make.recorded source) { (detect make source selection).2 with caps } =
        [] := by
  constructor
  · refine ⟨selection.withTokens make tokens, ?_, ?_, ?_⟩
    · exact detect_comment_render hmake hne h selection
    · exact detect_comment_append_render hmake hhead hclosing h selection
    · exact namesBuilt_comment_append_render hmake hhead hclosing hne h selection
  · intro source caps hcaps
    exact detect_again hmake source selection hcaps

/-- Behind a body that is refused, a name that it holds as well is built first. -/
theorem detect_sequences_refused :
    CapsFactory.named.GivesBundles ∧ (utf8 " Default Bogus Default").head? = some space ∧
    ¬ closing <:+: utf8 " Default Bogus Default" ∧
    (∀ token ∈ [Token.tweak .flipY, .caps "Version110"], token ∈ Token.all) ∧
    detect .named (comment (utf8 " Default Bogus Default FlipY Version110")) (.fresh ()) =
      detect .named (comment (utf8 " Default Bogus Default"))
        (detect .named (comment (utf8 " FlipY Version110")) (.fresh ())).2 ∧
    (detect .named (comment (utf8 " Default Bogus Default FlipY Version110")) (.fresh ())).1 =
      .error (.failed (.unrecognizedPragma (utf8 " Default Bogus"))) ∧
    namesBuilt (detect CapsFactory.named.recorded
      (comment (utf8 " Default Bogus Default FlipY Version110"))) (.fresh ()) =
        ["Version110", "Default"] := by
  have hhead : (utf8 " Default Bogus Default").head? = some space := by decide
  have hclosing : ¬ closing <:+: utf8 " Default Bogus Default" := by decide
  have hall : ∀ token ∈ [Token.tweak .flipY, .caps "Version110"], token ∈ Token.all := by decide
  have hrender : render [.tweak .flipY, .caps "Version110"] = utf8 " FlipY Version110" := by decide
  obtain ⟨⟨after, htokens, hwhole, -⟩, -⟩ := detect_sequences CapsFactory.givesBundles_named hhead
    hclosing (by simp) hall (.fresh ())
  rw [hrender] at htokens hwhole
  refine ⟨CapsFactory.givesBundles_named, hhead, hclosing, hall, ?_, by decide +kernel,
    by decide +kernel⟩
  rw [htokens]
  exact hwhole

end Pragma

end ShaderDriver
