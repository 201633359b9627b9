import ShaderDriver.Proofs.Caps.Builds
import ShaderDriver.Proofs.Pragma.Passes
import ShaderDriver.Proofs.Runner.Course
import ShaderDriver.Proofs.Runner.Isolation

/-!
# ShaderDriver.Proofs.Runner.Caches

**What holds of the shared cache through a run.** A runner does nothing with its cache but to ask it
for names. So a property that asking for any name keeps up (`CapsFactory.Keeps`) holds of the cache
after every job, however that ends, and after every sequence of jobs (`Runner.runAll_keeps`).

One such property is that the cache is faithful (`CapsCache.keeps_faithful`), another that it is
*genuine*: what it holds for a name is what the factory has made for that name.
-/

namespace ShaderDriver

variable {β κ : Type} {tc : Toolchain β} {make : CapsFactory β κ} {property : CapsCache β κ → Prop}

/-- Asking a cache for a name keeps the property up. -/
def CapsFactory.Keeps (make : CapsFactory β κ) (property : CapsCache β κ → Prop) : Prop :=
  ∀ name cache, property cache → property (cache.get make name).2

/-! ### From one name to all jobs -/

namespace Pragma

variable {selection : Selection β κ}

theorem Token.apply_keeps (hkeeps : make.Keeps property) (token : Token)
    (h : property selection.cache) : property (token.apply make selection).2.cache := by
  cases token with
  | tweak change => exact h
  | caps name =>
    have hafter := hkeeps name selection.cache h
    unfold Token.apply
    dsimp only
    rcases hget : selection.cache.get make name with ⟨crash | bundle, cache⟩ <;>
      simpa [hget] using hafter

theorem applyAll_keeps (hkeeps : make.Keeps property) (tokens : List Token)
    (h : property selection.cache) : property (applyAll make tokens selection).2.cache := by
  induction tokens with
  | nil => exact h
  | cons token tokens ih =>
    rw [applyAll]
    rcases hrest : applyAll make tokens selection with ⟨crash | _, between⟩
    · simpa [hrest] using ih
    · rw [hrest] at ih
      exact token.apply_keeps hkeeps ih

theorem detect_keeps (hkeeps : make.Keeps property) (source : Bytes)
    (h : property selection.cache) : property (detect make source selection).2.cache := by
  simp only [detect, detectWith]
  cases body? source with
  | none => exact h
  | some body =>
    have hafter := applyAll_keeps hkeeps (peel Token.all body).2 h
    simp only [settle_eq unambiguous_all]
    rcases hact : applyAll make (peel Token.all body).2 selection with ⟨crash | _, after⟩
    · simpa [hact] using hafter
    · rw [hact] at hafter
      dsimp only
      split <;> exact hafter

end Pragma

theorem prepare_keeps (hkeeps : make.Keeps property) (command : Command) (kind : ProgramKind)
    (files : FileTree) {cache : CapsCache β κ} (h : property cache) :
    property (prepare make command kind files cache).2 := by
  unfold prepare
  cases readSource files command.input with
  | error stop => exact h
  | ok text =>
    dsimp only
    have hstanding : property (cache.standalone make).2 := hkeeps _ cache h
    rcases hget : cache.standalone make with ⟨crash | caps, standing⟩
    · simpa [hget] using hstanding
    · rw [hget] at hstanding
      dsimp only
      have hconfigured : property (configure make command.honorsPragma text
          { settings := {}, caps, cache := standing }).2.cache := by
        unfold configure
        split
        · exact Pragma.detect_keeps hkeeps text hstanding
        · exact hstanding
      rcases hconfigure : configure make command.honorsPragma text
          { settings := {}, caps, cache := standing } with ⟨stop | _, selection⟩ <;>
        simpa [hconfigure] using hconfigured

namespace Runner

variable {runner : Runner β κ} {args : List String} {workspace after : Workspace tc κ}
  {report : JobReport tc}

theorem Course.keeps (h : runner.Course args workspace report after)
    (hkeeps : runner.makeCaps.Keeps property) (hcache : property workspace.cache) :
    property after.cache := by
  cases h with
  | refused => exact hcache
  | unplanned => exact hcache
  | @unprepared command kind _ _ _ _ _ hprepare =>
    have hkept := prepare_keeps hkeeps command kind workspace.files hcache
    rwa [hprepare] at hkept
  | @built command kind _ _ _ _ _ hprepare =>
    have hkept := prepare_keeps hkeeps command kind workspace.files hcache
    rwa [hprepare] at hkept

theorem run_keeps (hkeeps : runner.makeCaps.Keeps property) (args : List String)
    (h : property workspace.cache) : property (runner.run args workspace).2.cache :=
  (runner.run_course args workspace).keeps hkeeps h

theorem runAll_keeps (hkeeps : runner.makeCaps.Keeps property) (commands : List (List String))
    (h : property workspace.cache) : property (runner.runAll commands workspace).2.cache := by
  induction commands generalizing workspace with
  | nil => exact h
  | cons args commands ih => exact ih (run_keeps hkeeps args h)

end Runner

/-- A factory that gives each name always the same keeps caches faithful. -/
theorem CapsCache.keeps_faithful {bundle : String → Option β} (hmake : make.GivesByName bundle) :
    make.Keeps (Faithful bundle) := by
  intro name cache h
  obtain ⟨kept, hget, hkept⟩ := get_faithful hmake h name
  rw [hget]
  exact hkept

/-! ### Genuine caches -/

/-- The factory makes this bundle for the name, in some state of its own. -/
def CapsFactory.Makes (make : CapsFactory β κ) (name : String) (bundle : β) : Prop :=
  ∃ state, (make name state).1 = .ok (some bundle)

namespace CapsCache

/-- What the cache holds for a name was made for it. -/
def Genuine (make : CapsFactory β κ) (cache : CapsCache β κ) : Prop :=
  ∀ name held, cache.find? name = some held → make.Makes name held

theorem genuine_empty (factory : κ) : Genuine make { factory } := by
  intro name held h
  simp [find?] at h

theorem keeps_genuine : make.Keeps (Genuine make) := by
  intro name cache h other held hheld
  by_cases hother : name = other
  · subst hother
    cases hfind : cache.find? name with
    | some bundle =>
      rw [get_of_find? hfind] at hheld
      exact h name held hheld
    | none =>
      rcases hmade : make name cache.factory with ⟨crash | made, factory⟩
      · -- A factory that breaks down leaves the name without a bundle.
        have hget : (cache.get make name).1 = .error crash := by simp [get, hfind, hmade]
        simp only [find?, bundles_get_of_error hget] at hheld hfind
        rw [hfind] at hheld
        cases hheld
      · have hget : (cache.get make name).1 = .ok made := by simp [get, hfind, hmade]
        rw [find?_get_self hget] at hheld
        exact ⟨cache.factory, by rw [hmade, hheld]⟩
  · rw [find?_get_of_ne hother] at hheld
    exact h other held hheld

end CapsCache

end ShaderDriver
