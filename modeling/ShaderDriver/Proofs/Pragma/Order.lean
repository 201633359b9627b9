import Mathlib.Data.List.Perm.Basic
import ShaderDriver.Proofs.Caps.Faithful
import ShaderDriver.Proofs.Pragma.Sequencing

/-!
# ShaderDriver.Proofs.Pragma.Order

**When the order of tokens matters.** Tokens get in each other's way in two cases only: they select
different bundles, or they set both thresholds. Then whichever stands leftmost wins, so putting the
one or the other there gives different results, from whatever start (`exists_arrangements`).
Tokens that are `Compatible` do the same in every arrangement: flags do not depend on the order, and
there is only one threshold and only one name that could stand leftmost.
-/

namespace ShaderDriver

variable {β κ : Type} {make : CapsFactory β κ}

open Pragma (Token)

/-- A list of equal elements has no other arrangement. -/
theorem eq_of_perm_of_forall_eq {α : Type} {xs ys : List α} (hperm : xs.Perm ys)
    (hsame : ∀ x ∈ xs, ∀ y ∈ xs, x = y) : xs = ys := by
  refine @List.Perm.eq_of_pairwise _ (fun _ _ => True) _ _ ?_ ?_ ?_ hperm
  · intro x y hx hy _ _
    exact hsame x hx y (hperm.symm.subset hy)
  · exact List.pairwise_of_forall fun _ _ => trivial
  · exact List.pairwise_of_forall fun _ _ => trivial

namespace CapsCache

/-- Asking a faithful cache for names leaves it faithful. -/
theorem faithful_getAll {bundle : String → Option β} (hmake : make.GivesByName bundle)
    {cache : CapsCache β κ} (h : cache.Faithful bundle) (names : List String) :
    (cache.getAll make names).Faithful bundle := by
  induction names generalizing cache with
  | nil => exact h
  | cons name names ih =>
    obtain ⟨kept, hget, hkept⟩ := get_faithful hmake h name
    rw [getAll_cons, hget]
    exact ih hkept

end CapsCache

namespace Pragma

/-- The tokens select at most one bundle, and do not set both thresholds. -/
structure Compatible (tokens : List Token) : Prop where
  caps : ∀ name other, .caps name ∈ tokens → .caps other ∈ tokens → name = other
  thresholds : ¬ (.tweak .noInline ∈ tokens ∧ .tweak .inlineThresholdMax ∈ tokens)

/-! ### Compatible tokens -/

/-- The tokens that set a threshold. -/
theorem threshold?_eq_some_iff {token : Token} {threshold : Int} :
    token.threshold? = some threshold ↔
      (token = .tweak .noInline ∧ threshold = 0) ∨
        (token = .tweak .inlineThresholdMax ∧ threshold = 2147483647) := by
  rcases token with name | change
  · simp [Token.threshold?]
  · cases change <;> simp [Token.threshold?, eq_comm]

namespace Compatible

variable {first second tokens : List Token}

theorem perm (h : Compatible tokens) (hperm : first.Perm tokens) : Compatible first where
  caps name other hname hother :=
    h.caps name other (hperm.subset hname) (hperm.subset hother)
  thresholds hboth := h.thresholds ⟨hperm.subset hboth.1, hperm.subset hboth.2⟩

/-- Compatible tokens set one threshold at most. -/
theorem threshold_unique (h : Compatible first) :
    ∀ x ∈ first.filterMap Token.threshold?, ∀ y ∈ first.filterMap Token.threshold?, x = y := by
  intro x hx y hy
  obtain ⟨token, htoken, hxtoken⟩ := List.mem_filterMap.mp hx
  obtain ⟨other, hother, hyother⟩ := List.mem_filterMap.mp hy
  rcases threshold?_eq_some_iff.mp hxtoken with ⟨rfl, rfl⟩ | ⟨rfl, rfl⟩ <;>
    rcases threshold?_eq_some_iff.mp hyother with ⟨rfl, rfl⟩ | ⟨rfl, rfl⟩
  · rfl
  · exact absurd ⟨htoken, hother⟩ h.thresholds
  · exact absurd ⟨hother, htoken⟩ h.thresholds
  · rfl

/-- The leftmost threshold is the same in every arrangement. -/
theorem findSome?_threshold?_eq (h : Compatible first) (hperm : first.Perm second) :
    first.findSome? Token.threshold? = second.findSome? Token.threshold? := by
  rw [← List.head?_filterMap, ← List.head?_filterMap,
    eq_of_perm_of_forall_eq (hperm.filterMap Token.threshold?) h.threshold_unique]

/-- The names that compatible tokens select are the same in every arrangement, one by one. -/
theorem filterMap_capsName?_eq (h : Compatible first) (hperm : first.Perm second) :
    first.filterMap Token.capsName? = second.filterMap Token.capsName? := by
  refine eq_of_perm_of_forall_eq (hperm.filterMap Token.capsName?) ?_
  intro name hname other hother
  have hmet (name : String) (hname : name ∈ first.filterMap Token.capsName?) :
      .caps name ∈ first := by
    apply mem_capsNamesMet.mp
    simpa [capsNamesMet] using hname
  exact h.caps name other (hmet name hname) (hmet other hother)

/-- Compatible tokens mean the same in every arrangement, for the cache as well. -/
theorem withTokens_eq (h : Compatible first) (hperm : first.Perm second)
    (selection : Selection β κ) :
    selection.withTokens make first = selection.withTokens make second := by
  have hnames := h.filterMap_capsName?_eq hperm
  have hmet : capsNamesMet first = capsNamesMet second := by
    rw [capsNamesMet, capsNamesMet, List.filterMap_reverse, List.filterMap_reverse, hnames]
  have hleftmost : first.findSome? Token.capsName? = second.findSome? Token.capsName? := by
    rw [← List.head?_filterMap, ← List.head?_filterMap, hnames]
  simp only [Selection.withTokens, Settings.withTokens, hperm.mem_iff,
    h.findSome?_threshold?_eq hperm, hmet, hleftmost]

end Compatible

/-! ### Tokens that get in each other's way -/

/-- A factory that gives each name a bundle of its own always gives one. -/
theorem givesBundles_of_givesByName {bundle : String → β}
    (hmake : make.GivesByName fun name => some (bundle name)) : make.GivesBundles :=
  fun name state => ⟨bundle name, hmake name state⟩

/-- With a factory that gives each name a bundle of its own, the bundle is that of the name that
stands leftmost. -/
theorem caps_withTokens_cons {bundle : String → β}
    (hmake : make.GivesByName fun name => some (bundle name)) {selection : Selection β κ}
    (hfaithful : selection.cache.Faithful fun name => some (bundle name)) (name : String)
    (tokens : List Token) :
    (selection.withTokens make (.caps name :: tokens)).caps = some (bundle name) := by
  have hgives := givesBundles_of_givesByName hmake
  have hcaps : (selection.withTokens make (.caps name :: tokens)).caps =
      (selection.cache.getAll make (capsNamesMet (.caps name :: tokens))).find? name := by
    rw [CapsCache.getAll_eq_buildAll hgives]
    rfl
  have hheld : ((selection.cache.getAll make (capsNamesMet (.caps name :: tokens))).find?
      name).isSome := by
    rw [CapsCache.getAll_eq_buildAll hgives,
      CapsCache.isSome_find?_buildAll_missing hgives]
    simp
  obtain ⟨held, hheld⟩ := Option.isSome_iff_exists.mp hheld
  rw [hcaps, hheld]
  exact (CapsCache.faithful_getAll hmake hfaithful _ name held hheld).symm

/-- The threshold is that of the token that stands leftmost, if that sets one. -/
theorem inlineThreshold_withTokens_cons (settings : Settings) {token : Token} {threshold : Int}
    (h : token.threshold? = some threshold) (tokens : List Token) :
    (settings.withTokens (token :: tokens)).inlineThreshold = threshold := by
  simp [Settings.withTokens, h]

/-! ### Arrangements -/

/-- One arrangement of the tokens in a comment and another one leave different settings or different
bundles, from every start with a factory that gives each name a bundle of its own. -/
def Distinguishes (first second : List Token) : Prop :=
  ∀ (β κ : Type) (make : CapsFactory β κ) (bundle : String → β),
    make.GivesByName (fun name => some (bundle name)) → bundle.Injective →
    ∀ selection : Selection β κ, selection.cache.Faithful (fun name => some (bundle name)) →
      (detect make (comment (render first)) selection).2.settings ≠
          (detect make (comment (render second)) selection).2.settings ∨
        (detect make (comment (render first)) selection).2.caps ≠
          (detect make (comment (render second)) selection).2.caps

/-- The tokens leave the same settings and the same bundle in whatever arrangement they are written
as a comment, from every start. -/
def OrderFree (tokens : List Token) : Prop :=
  ∀ (β κ : Type) (make : CapsFactory β κ), make.GivesBundles →
    ∀ (selection : Selection β κ) (first second : List Token),
      first.Perm tokens → second.Perm tokens →
      (detect make (comment (render first)) selection).2.settings =
          (detect make (comment (render second)) selection).2.settings ∧
        (detect make (comment (render first)) selection).2.caps =
          (detect make (comment (render second)) selection).2.caps

section Arrangements

variable {tokens : List Token} (hne : tokens ≠ []) (hall : ∀ token ∈ tokens, token ∈ Token.all)

include hne hall

theorem detect_arranged (hmake : make.GivesBundles) {arranged : List Token}
    (hperm : arranged.Perm tokens) (selection : Selection β κ) :
    detect make (comment (render arranged)) selection =
      (.ok (), selection.withTokens make arranged) := by
  refine detect_comment_render hmake ?_ ?_ selection
  · intro hnil
    rw [hnil, List.nil_perm] at hperm
    exact hne hperm
  · intro token htoken
    exact hall token (hperm.subset htoken)

theorem Compatible.orderFree (h : Compatible tokens) : OrderFree tokens := by
  intro β κ make hmake selection first second hfirst hsecond
  rw [detect_arranged hne hall hmake hfirst, detect_arranged hne hall hmake hsecond,
    (h.perm hfirst).withTokens_eq (hfirst.trans hsecond.symm)]
  exact ⟨rfl, rfl⟩

/-- Putting the one threshold or the other leftmost makes a difference. -/
theorem distinguishes_of_thresholds {first second : List Token}
    (hfirst : (.tweak .noInline :: first).Perm tokens)
    (hsecond : (.tweak .inlineThresholdMax :: second).Perm tokens) :
    Distinguishes (.tweak .noInline :: first) (.tweak .inlineThresholdMax :: second) := by
  intro β κ make bundle hmake _ selection _
  have hgives := givesBundles_of_givesByName hmake
  rw [detect_arranged hne hall hgives hfirst, detect_arranged hne hall hgives hsecond]
  refine .inl fun hsame => ?_
  have hthreshold := congrArg Settings.inlineThreshold hsame
  simp only [Selection.withTokens] at hthreshold
  rw [inlineThreshold_withTokens_cons _ rfl, inlineThreshold_withTokens_cons _ rfl] at hthreshold
  exact absurd hthreshold (by decide)

/-- Putting the one name or the other leftmost makes a difference. -/
theorem distinguishes_of_names {name other : String} (hdiffer : name ≠ other)
    {first second : List Token} (hfirst : (.caps name :: first).Perm tokens)
    (hsecond : (.caps other :: second).Perm tokens) :
    Distinguishes (.caps name :: first) (.caps other :: second) := by
  intro β κ make bundle hmake hinjective selection hfaithful
  have hgives := givesBundles_of_givesByName hmake
  rw [detect_arranged hne hall hgives hfirst, detect_arranged hne hall hgives hsecond]
  refine .inr fun hsame => ?_
  rw [caps_withTokens_cons hmake hfaithful, caps_withTokens_cons hmake hfaithful] at hsame
  exact hdiffer (hinjective (Option.some.inj hsame))

/-- Of tokens that are not compatible, two can take turns in standing leftmost. -/
theorem exists_arrangements (h : ¬ Compatible tokens) :
    ∃ first second, first.Perm tokens ∧ second.Perm tokens ∧ Distinguishes first second := by
  by_cases hboth : Token.tweak .noInline ∈ tokens ∧ Token.tweak .inlineThresholdMax ∈ tokens
  · have hfirst := (List.perm_cons_erase hboth.1).symm
    have hsecond := (List.perm_cons_erase hboth.2).symm
    exact ⟨_, _, hfirst, hsecond, distinguishes_of_thresholds hne hall hfirst hsecond⟩
  · have hnames : ∃ name other, .caps name ∈ tokens ∧ .caps other ∈ tokens ∧ name ≠ other := by
      by_contra hnone
      refine h ⟨fun name other hname hother => ?_, hboth⟩
      by_contra hdiffer
      exact hnone ⟨name, other, hname, hother, hdiffer⟩
    obtain ⟨name, other, hname, hother, hdiffer⟩ := hnames
    have hfirst := (List.perm_cons_erase hname).symm
    have hsecond := (List.perm_cons_erase hother).symm
    exact ⟨_, _, hfirst, hsecond, distinguishes_of_names hne hall hdiffer hfirst hsecond⟩

end Arrangements

/-- Arrangements that are told apart show that the order matters. -/
theorem Distinguishes.not_orderFree {first second tokens : List Token}
    (h : Distinguishes first second) (hfirst : first.Perm tokens) (hsecond : second.Perm tokens) :
    ¬ OrderFree tokens := by
  intro hfree
  have hsame := hfree Caps Unit .named CapsFactory.givesBundles_named (.fresh ()) first second
    hfirst hsecond
  have hdiffer := h Caps Unit .named Caps.mk (fun _ _ => rfl) (fun _ _ => Caps.mk.inj) (.fresh ())
    (CapsCache.faithful_empty ())
  exact hdiffer.elim (absurd hsame.1) (absurd hsame.2)

/-- **Exactly when the order of tokens matters.** Every arrangement of tokens is accepted as a
comment. All of them leave the same settings and the same bundle, from every start, if and only if
the tokens select one bundle at most and do not set both thresholds. Otherwise there are two
arrangements that leave something different from *every* start, as long as the factory gives
different names different bundles. -/
theorem order_matters_exactly {tokens : List Token} (hne : tokens ≠ [])
    (hall : ∀ token ∈ tokens, token ∈ Token.all) :
    (∀ (make : CapsFactory β κ), make.GivesBundles → ∀ (selection : Selection β κ) (arranged),
      arranged.Perm tokens → (detect make (comment (render arranged)) selection).1 = .ok ()) ∧
    (OrderFree tokens ↔
      (∀ name other, .caps name ∈ tokens → .caps other ∈ tokens → name = other) ∧
        ¬ (.tweak .noInline ∈ tokens ∧ .tweak .inlineThresholdMax ∈ tokens)) ∧
    (¬ OrderFree tokens →
      ∃ first second, first.Perm tokens ∧ second.Perm tokens ∧ Distinguishes first second) := by
  have hiff : OrderFree tokens ↔ Compatible tokens := by
    refine ⟨fun hfree => ?_, Compatible.orderFree hne hall⟩
    by_contra hincompatible
    obtain ⟨first, second, hfirst, hsecond, hdiffer⟩ :=
      exists_arrangements hne hall hincompatible
    exact hdiffer.not_orderFree hfirst hsecond hfree
  refine ⟨?_, ?_, ?_⟩
  · intro make hmake selection arranged hperm
    rw [detect_arranged hne hall hmake hperm]
  · rw [hiff]
    exact ⟨fun h => ⟨h.caps, h.thresholds⟩, fun h => ⟨h.1, h.2⟩⟩
  · intro hmatters
    exact exists_arrangements hne hall (mt hiff.mpr hmatters)

/-- A name that is written twice can stand anywhere; of both thresholds the leftmost counts. -/
theorem order_matters_exactly_twice :
    (∀ token ∈ [Token.tweak .noInline, .caps "Default", .tweak .sharpen, .caps "Default"],
      token ∈ Token.all) ∧
    OrderFree [.tweak .noInline, .caps "Default", .tweak .sharpen, .caps "Default"] ∧
    (∀ token ∈ [Token.tweak .noInline, .caps "Default", .tweak .inlineThresholdMax],
      token ∈ Token.all) ∧
    ¬ OrderFree [.tweak .noInline, .caps "Default", .tweak .inlineThresholdMax] := by
  have hall : ∀ token ∈ [Token.tweak .noInline, .caps "Default", .tweak .sharpen, .caps "Default"],
      token ∈ Token.all := by decide
  have hallBoth : ∀ token ∈ [Token.tweak .noInline, .caps "Default", .tweak .inlineThresholdMax],
      token ∈ Token.all := by decide
  obtain ⟨-, hfree, -⟩ := @order_matters_exactly Caps Unit _ (by simp) hall
  obtain ⟨-, hboth, -⟩ := @order_matters_exactly Caps Unit _ (by simp) hallBoth
  refine ⟨hall, hfree.mpr ⟨?_, by decide⟩, hallBoth, fun hsame => ?_⟩
  · intro name other hname hother
    simp only [List.mem_cons, Token.caps.injEq, reduceCtorEq, List.not_mem_nil, false_or,
      or_false, or_self] at hname hother
    rw [hname, hother]
  · exact (hboth.mp hsame).2 (by decide)

end Pragma

end ShaderDriver
