import ShaderDriver.Proofs.Caps.Builds
import ShaderDriver.Proofs.Pragma.Extraction
import ShaderDriver.Proofs.Pragma.Passes

/-!
# ShaderDriver.Proofs.Pragma.Meaning

**What a settings comment means.** A comment is a list of tokens, and its meaning is said of the
list as a whole, without an order of events: which flags occur in it, which threshold and which
bundle name occur leftmost (`Settings.withTokens`, `Selection.withTokens`). Only the bundles that
the cache is short of are made in an order, that in which the names are met from the right.

With a factory that always gives bundles, letting tokens act comes to this meaning (`applyAll_eq`),
and a comment is accepted exactly if its body is written from tokens. Which bundles a run has built,
and in which order, is shown by a factory that notes names (`namesBuilt`).
-/

namespace ShaderDriver

open Pragma (Token)

/-! ### The meaning of a list of tokens -/

namespace Pragma.Token

/-- The name of the bundle that a token selects. -/
def capsName? : Token → Option String
  | caps name => some name
  | tweak _ => none

/-- The threshold for inlining that a token sets. -/
def threshold? : Token → Option Int
  | tweak .noInline => some 0
  | tweak .inlineThresholdMax => some 2147483647
  | _ => none

end Pragma.Token

/-- The settings that tokens make of the given ones. -/
def Settings.withTokens (settings : Settings) (tokens : List Token) : Settings where
  flipY := settings.flipY || decide (.tweak .flipY ∈ tokens)
  forceHighPrecision := settings.forceHighPrecision || decide (.tweak .forceHighPrecision ∈ tokens)
  inlineThreshold := (tokens.findSome? Token.threshold?).getD settings.inlineThreshold
  sharpenTextures := settings.sharpenTextures || decide (.tweak .sharpen ∈ tokens)
  replaceSettings := settings.replaceSettings

theorem Settings.withTokens_cons_tweak (settings : Settings) (change : Pragma.Tweak)
    (tokens : List Token) :
    settings.withTokens (.tweak change :: tokens) = change.apply (settings.withTokens tokens) := by
  cases change <;>
    simp [withTokens, Pragma.Tweak.apply, List.findSome?_cons, Token.threshold?,
      maxInlineThreshold]

theorem Settings.withTokens_cons_caps (settings : Settings) (name : String)
    (tokens : List Token) :
    settings.withTokens (.caps name :: tokens) = settings.withTokens tokens := by
  simp [withTokens, List.findSome?_cons, Token.threshold?]

namespace Pragma

variable {β κ : Type} {make : CapsFactory β κ}

/-- The names of the bundles that tokens select, from right to left. -/
def capsNamesMet (tokens : List Token) : List String := tokens.reverse.filterMap Token.capsName?

@[simp] theorem capsNamesMet_nil : capsNamesMet [] = [] := rfl

@[simp] theorem capsNamesMet_cons_tweak (change : Tweak) (tokens : List Token) :
    capsNamesMet (.tweak change :: tokens) = capsNamesMet tokens := by
  simp [capsNamesMet, Token.capsName?]

@[simp] theorem capsNamesMet_cons_caps (name : String) (tokens : List Token) :
    capsNamesMet (.caps name :: tokens) = capsNamesMet tokens ++ [name] := by
  simp [capsNamesMet, Token.capsName?]

/-- The selection that tokens make of the given one. -/
def Selection.withTokens (make : CapsFactory β κ) (selection : Selection β κ)
    (tokens : List Token) : Selection β κ :=
  let cache := selection.cache.buildAll make (selection.cache.missing (capsNamesMet tokens))
  { settings := selection.settings.withTokens tokens
    caps :=
      match tokens.findSome? Token.capsName? with
      | none => selection.caps
      | some name => cache.find? name
    cache }

/-- Letting tokens act, the last one first, gives the selection that they mean. -/
theorem applyAll_eq (hmake : make.GivesBundles) (tokens : List Token)
    (selection : Selection β κ) :
    applyAll make tokens selection = (.ok (), selection.withTokens make tokens) := by
  induction tokens with
  | nil => simp [applyAll, Selection.withTokens, Settings.withTokens, CapsCache.missing]
  | cons token tokens ih =>
    rw [applyAll, ih]
    cases token with
    | tweak change =>
      simp [Token.apply, Selection.withTokens, Settings.withTokens_cons_tweak,
        List.findSome?_cons, Token.capsName?]
    | caps name =>
      -- The name is asked for last, of the cache that the tokens behind it have left.
      have hcache : ((selection.withTokens make tokens).cache.get make name).2 =
          (selection.withTokens make (.caps name :: tokens)).cache := by
        simp only [Selection.withTokens, capsNamesMet_cons_caps,
          ← CapsCache.getAll_eq_buildAll hmake, CapsCache.getAll_append,
          CapsCache.getAll_singleton]
      have hbundle := CapsCache.get_fst hmake (selection.withTokens make tokens).cache name
      rw [hcache] at hbundle
      have hget : (selection.withTokens make tokens).cache.get make name =
          (.ok ((selection.withTokens make (.caps name :: tokens)).cache.find? name),
            (selection.withTokens make (.caps name :: tokens)).cache) :=
        Prod.ext hbundle hcache
      simp only [Token.apply, hget]
      simp [Selection.withTokens, Settings.withTokens_cons_caps, List.findSome?_cons,
        Token.capsName?]

/-! ### Comments -/

/-- The body of a comment starts with the space in front of its first word. -/
theorem exists_eq_cons_of_body? {source body : Bytes} (h : body? source = some body) :
    ∃ rest, body = space :: rest := by
  obtain ⟨before, after, hencloses⟩ := exists_encloses_of_body? h
  exact List.head?_eq_some_iff.mp hencloses.head?_body

/-- Nothing is in front of the tokens at the end of a comment exactly if its body is written from
one or more of them. -/
theorem peel_eq_nil_iff_of_body? {source body : Bytes} (hbody : body? source = some body) :
    (peel Token.all body).1 = [] ↔
      ∃ tokens, tokens ≠ [] ∧ (∀ token ∈ tokens, token ∈ Token.all) ∧ body = render tokens := by
  rw [peel_fst_eq_nil_iff unambiguous_all]
  refine exists_congr fun tokens => ⟨?_, fun h => h.2⟩
  rintro ⟨hall, hrender⟩
  -- No tokens at all would be the empty body, but a body starts with a space.
  obtain ⟨rest, hcons⟩ := exists_eq_cons_of_body? hbody
  refine ⟨?_, hall, hrender⟩
  rintro rfl
  simp [hcons] at hrender

/-- A comment lets the tokens at its end act; it is refused if something is in front of them. -/
theorem detect_eq (hmake : make.GivesBundles) {source body : Bytes}
    (hbody : body? source = some body) (selection : Selection β κ) :
    detect make source selection =
      (if (peel Token.all body).1 = [] then .ok ()
        else .error (.failed (.unrecognizedPragma (peel Token.all body).1)),
        selection.withTokens make (peel Token.all body).2) := by
  rw [detect, detectWith, hbody]
  simp only [settle_eq unambiguous_all, applyAll_eq hmake]
  split <;> rfl

/-- A source without a comment changes nothing. -/
theorem detect_of_body?_eq_none {source : Bytes} (hbody : body? source = none)
    (selection : Selection β κ) : detect make source selection = (.ok (), selection) := by
  rw [detect, detectWith, hbody]

/-- The selection before anything has acted: the default settings, no bundle, and an empty cache. -/
def Selection.fresh (state : κ) : Selection β κ where
  settings := {}
  caps := none
  cache := { factory := state }

/-! ### Which bundles are built -/

/-- The selection, with a factory that notes the names it is asked for from now on. -/
def Selection.noting (selection : Selection β κ) : Selection β (List String × κ) where
  settings := selection.settings
  caps := selection.caps
  cache := { bundles := selection.cache.bundles, factory := ([], selection.cache.factory) }

/-- The names that a run, with a factory that notes names, has bundles built for, in order. -/
def namesBuilt
    (run : Selection β (List String × κ) → Except Stop Unit × Selection β (List String × κ))
    (selection : Selection β κ) : List String :=
  (run selection.noting).2.cache.noted

/-- A comment has the bundles built that are missing for the names among the tokens at its end. -/
theorem namesBuilt_detect (hmake : make.GivesBundles) {source body : Bytes}
    (hbody : body? source = some body) (selection : Selection β κ) :
    namesBuilt (detect make.recorded source) selection =
      selection.cache.missing (capsNamesMet (peel Token.all body).2) := by
  rw [namesBuilt, detect_eq hmake.recorded hbody]
  exact (CapsCache.noted_buildAll _ _).trans (List.nil_append _)

theorem mem_capsNamesMet {tokens : List Token} {name : String} :
    name ∈ capsNamesMet tokens ↔ .caps name ∈ tokens := by
  simp only [capsNamesMet, List.mem_filterMap, List.mem_reverse]
  constructor
  · rintro ⟨_ | change, htoken, hname⟩ <;> simp_all [Token.capsName?]
  · intro htoken
    exact ⟨.caps name, htoken, rfl⟩

/-- **Pragma grammar and meaning.** A comment is accepted exactly if its body is written from one or
more recognized tokens. These tokens are unique, and the selection becomes what they mean; the cache
then holds bundles for the names it held one for before and for those among the tokens. -/
theorem accepts_iff_and_means (hmake : make.GivesBundles) {source body : Bytes}
    (hbody : body? source = some body) (selection : Selection β κ) :
    ((detect make source selection).1 = .ok () ∨
      ∃ rest, (detect make source selection).1 = .error (.failed (.unrecognizedPragma rest))) ∧
    ((detect make source selection).1 = .ok () ↔
      ∃ tokens, tokens ≠ [] ∧ (∀ token ∈ tokens, token ∈ Token.all) ∧ body = render tokens) ∧
    ∀ tokens, tokens ≠ [] → (∀ token ∈ tokens, token ∈ Token.all) → body = render tokens →
      (∀ others, (∀ token ∈ others, token ∈ Token.all) → body = render others →
        others = tokens) ∧
      (detect make source selection).2 = selection.withTokens make tokens ∧
      ∀ name, ((detect make source selection).2.cache.find? name).isSome ↔
        (selection.cache.find? name).isSome ∨ .caps name ∈ tokens := by
  have hdetect := detect_eq hmake hbody selection
  refine ⟨?_, ?_, ?_⟩
  · rw [hdetect]
    by_cases hnil : (peel Token.all body).1 = []
    · exact Or.inl (if_pos hnil)
    · exact Or.inr ⟨_, if_neg hnil⟩
  · rw [← peel_eq_nil_iff_of_body? hbody, hdetect]
    by_cases hnil : (peel Token.all body).1 = [] <;> simp [hnil]
  · rintro tokens - hall rfl
    have hafter : (detect make source selection).2 = selection.withTokens make tokens := by
      rw [hdetect, peel_render unambiguous_all hall]
    refine ⟨fun others hothers heq => ?_, hafter, fun name => ?_⟩
    · exact render_injective unambiguous_all hothers hall heq.symm
    · rw [hafter, ← mem_capsNamesMet]
      exact CapsCache.isSome_find?_buildAll_missing hmake selection.cache (capsNamesMet tokens) name

/-- A comment in which the leftmost of two names and of two thresholds wins and a flag is set. -/
theorem accepts_iff_and_means_five :
    CapsFactory.named.GivesBundles ∧
    body? (utf8 "a /*#pragma settings NoInline Default FlipY InlineThresholdMax Version110*/ b") =
      some (utf8 " NoInline Default FlipY InlineThresholdMax Version110") ∧
    (detect .named
      (utf8 "a /*#pragma settings NoInline Default FlipY InlineThresholdMax Version110*/ b")
      { settings := {}, caps := none, cache := { factory := () } }).1 = .ok () ∧
    (detect .named
      (utf8 "a /*#pragma settings NoInline Default FlipY InlineThresholdMax Version110*/ b")
      { settings := {}, caps := none, cache := { factory := () } }).2.settings =
        { flipY := true, inlineThreshold := 0 } ∧
    (detect .named
      (utf8 "a /*#pragma settings NoInline Default FlipY InlineThresholdMax Version110*/ b")
      { settings := {}, caps := none, cache := { factory := () } }).2.caps = some ⟨"Default"⟩ := by
  have hbody :
      body? (utf8 "a /*#pragma settings NoInline Default FlipY InlineThresholdMax Version110*/ b") =
        some (utf8 " NoInline Default FlipY InlineThresholdMax Version110") := by decide +kernel
  have hrender : utf8 " NoInline Default FlipY InlineThresholdMax Version110" =
      render [.tweak .noInline, .caps "Default", .tweak .flipY, .tweak .inlineThresholdMax,
        .caps "Version110"] := by decide
  have h := accepts_iff_and_means CapsFactory.givesBundles_named hbody
    { settings := {}, caps := none, cache := { factory := () } }
  obtain ⟨-, hafter, -⟩ := h.2.2 _ (by simp) (by decide) hrender
  refine ⟨CapsFactory.givesBundles_named, hbody, ?_, ?_, ?_⟩
  · exact h.2.1.mpr ⟨_, by simp, by decide, hrender⟩
  · rw [hafter]
    decide
  · rw [hafter]
    decide +kernel

end Pragma

end ShaderDriver
