import ShaderDriver.Caps.Cache

/-!
# ShaderDriver.Proofs.Caps.Faithful

**Caches that hold what the factory would give.** If a factory gives each name always the same, it
makes no difference whether a cache holds a bundle or has it made: a cache that holds nothing but
what the factory would give is *faithful*, and every faithful cache gives a name what belongs to it.
-/

namespace ShaderDriver

variable {β κ : Type} {make : CapsFactory β κ} {bundle : String → Option β}

/-- The factory gives each name the same, whatever its own state: a bundle, or none. -/
def CapsFactory.GivesByName (make : CapsFactory β κ) (bundle : String → Option β) : Prop :=
  ∀ name state, (make name state).1 = .ok (bundle name)

namespace CapsCache

/-- The cache holds for a name what belongs to it, if it holds anything. -/
def Faithful (bundle : String → Option β) (cache : CapsCache β κ) : Prop :=
  ∀ name held, cache.find? name = some held → bundle name = some held

theorem faithful_empty (factory : κ) : Faithful bundle { factory : CapsCache β κ } := by
  intro name held h
  simp [find?] at h

/-- A faithful cache answers for a name what belongs to it, and is faithful afterwards. -/
theorem get_faithful (hmake : make.GivesByName bundle) {cache : CapsCache β κ}
    (h : cache.Faithful bundle) (name : String) :
    ∃ kept, cache.get make name = (.ok (bundle name), kept) ∧ kept.Faithful bundle := by
  cases hfind : cache.find? name with
  | some held =>
    rw [get_of_find? hfind, h name held hfind]
    exact ⟨cache, rfl, h⟩
  | none =>
    have hanswer : (cache.get make name).1 = .ok (bundle name) := by
      have hgiven := hmake name cache.factory
      rcases hmade : make name cache.factory with ⟨crash | made, factory⟩ <;>
        simp_all [get]
    refine ⟨(cache.get make name).2, Prod.ext hanswer rfl, ?_⟩
    intro other held hheld
    by_cases hother : name = other
    · subst hother
      rw [find?_get_self hanswer] at hheld
      exact hheld
    · rw [find?_get_of_ne hother] at hheld
      exact h other held hheld

end CapsCache

end ShaderDriver
