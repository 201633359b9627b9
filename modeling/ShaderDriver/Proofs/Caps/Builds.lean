import Mathlib.Data.List.Induction
import ShaderDriver.Caps.Cache

/-!
# ShaderDriver.Proofs.Caps.Builds

**Which bundles a cache has made.** `build` is one call of the factory whose answer is kept, and
`buildAll` a sequence of them. With a factory that always gives a bundle, asking a cache for names,
one after the other and some of them repeatedly, comes to building the *missing* ones: those the
cache held no bundle for, each once, in the order in which they were first asked for
(`getAll_eq_buildAll`).

Which bundles were built, and in which order, is what a factory has noted that notes the names it is
asked for (`noted_buildAll`).
-/

namespace ShaderDriver

variable {β κ : Type}

namespace CapsFactory

/-- The factory gives a bundle for every name: it neither breaks down nor answers without one. -/
def GivesBundles (make : CapsFactory β κ) : Prop :=
  ∀ name state, ∃ bundle, (make name state).1 = .ok (some bundle)

theorem givesBundles_named : named.GivesBundles :=
  fun name _ => ⟨⟨name⟩, rfl⟩

end CapsFactory

namespace CapsCache

/-- Has the factory make the bundle for a name, and keeps what it gives. -/
def build (make : CapsFactory β κ) (cache : CapsCache β κ) (name : String) : CapsCache β κ :=
  match make name cache.factory with
  | (.ok made, factory) => { bundles := cache.bundles.insert name made, factory }
  | (.error _, factory) => { cache with factory }

/-- Has the factory make the bundles for names, one after the other. -/
def buildAll (make : CapsFactory β κ) (cache : CapsCache β κ) (names : List String) :
    CapsCache β κ :=
  names.foldl (build make) cache

/-- Asks the cache for the bundles of names, one after the other. -/
def getAll (make : CapsFactory β κ) (cache : CapsCache β κ) (names : List String) :
    CapsCache β κ :=
  names.foldl (fun cache name => (cache.get make name).2) cache

/-- The names among these that the cache holds no bundle for, each where it is met first. -/
def missing (cache : CapsCache β κ) (names : List String) : List String :=
  names.eraseDups.filter fun name => (cache.find? name).isNone

variable {make : CapsFactory β κ}

@[simp] theorem buildAll_nil (cache : CapsCache β κ) : cache.buildAll make [] = cache := rfl

@[simp] theorem buildAll_cons (cache : CapsCache β κ) (name : String) (names : List String) :
    cache.buildAll make (name :: names) = (cache.build make name).buildAll make names := rfl

theorem buildAll_append (cache : CapsCache β κ) (first last : List String) :
    cache.buildAll make (first ++ last) = (cache.buildAll make first).buildAll make last :=
  List.foldl_append

theorem getAll_cons (cache : CapsCache β κ) (name : String) (names : List String) :
    cache.getAll make (name :: names) = (cache.get make name).2.getAll make names := rfl

theorem getAll_append (cache : CapsCache β κ) (first last : List String) :
    cache.getAll make (first ++ last) = (cache.getAll make first).getAll make last :=
  List.foldl_append

@[simp] theorem getAll_singleton (cache : CapsCache β κ) (name : String) :
    cache.getAll make [name] = (cache.get make name).2 := rfl

theorem missing_append_singleton (cache : CapsCache β κ) (names : List String) (name : String) :
    cache.missing (names ++ [name]) =
      cache.missing names ++
        if (cache.find? name).isSome ∨ name ∈ names then [] else [name] := by
  simp only [missing, List.eraseDups_append, List.filter_append]
  congr 1
  by_cases hname : name ∈ names
  · simp [List.removeAll, hname]
  · cases hfind : cache.find? name <;>
      simp [List.removeAll, List.eraseDups_cons, hname, hfind]

theorem mem_missing {cache : CapsCache β κ} {names : List String} {name : String} :
    name ∈ cache.missing names ↔ name ∈ names ∧ cache.find? name = none := by
  simp [missing, List.mem_eraseDups]

/-! ### What a cache holds -/

/-- A name without a bundle is built when it is asked for. -/
theorem get_snd_of_find?_eq_none {cache : CapsCache β κ} {name : String}
    (h : cache.find? name = none) : (cache.get make name).2 = cache.build make name := by
  simp only [get, h, build]
  rcases make name cache.factory with ⟨crash | made, factory⟩ <;> rfl

theorem find?_build_of_ne {cache : CapsCache β κ} {name other : String} (h : name ≠ other) :
    (cache.build make name).find? other = cache.find? other := by
  unfold build
  split
  · simp [find?, Std.ExtTreeMap.getElem?_insert, h]
  · rfl

section GivesBundles

variable (hmake : make.GivesBundles)

include hmake

theorem isSome_find?_build (cache : CapsCache β κ) (name : String) :
    ((cache.build make name).find? name).isSome := by
  obtain ⟨bundle, hbundle⟩ := hmake name cache.factory
  unfold build
  split
  · rename_i made factory hmade
    rw [hmade] at hbundle
    simp_all [find?]
  · rename_i crash factory hmade
    simp [hmade] at hbundle

/-- The cache holds bundles for what it held one for, and for what has been built. -/
theorem isSome_find?_buildAll (cache : CapsCache β κ) (names : List String) (name : String) :
    ((cache.buildAll make names).find? name).isSome ↔
      (cache.find? name).isSome ∨ name ∈ names := by
  induction names generalizing cache with
  | nil => simp
  | cons first names ih =>
    rw [buildAll_cons, ih, List.mem_cons]
    by_cases hname : first = name
    · subst hname
      simp [isSome_find?_build hmake]
    · rw [find?_build_of_ne hname]
      simp [Ne.symm hname]

/-- Once the missing ones among names are built, the cache holds bundles for all of them. -/
theorem isSome_find?_buildAll_missing (cache : CapsCache β κ) (names : List String)
    (name : String) :
    ((cache.buildAll make (cache.missing names)).find? name).isSome ↔
      (cache.find? name).isSome ∨ name ∈ names := by
  rw [isSome_find?_buildAll hmake, mem_missing]
  cases cache.find? name <;> simp

/-- An answer is always a bundle, and it is the one that is held from then on. -/
theorem get_fst (cache : CapsCache β κ) (name : String) :
    (cache.get make name).1 = .ok ((cache.get make name).2.find? name) := by
  cases hfind : cache.find? name with
  | some bundle => rw [get_of_find? hfind, hfind]
  | none =>
    obtain ⟨bundle, hbundle⟩ := hmake name cache.factory
    have hget : (cache.get make name).1 = .ok (some bundle) := by
      rcases hmade : make name cache.factory with ⟨crash | made, factory⟩ <;>
        simp_all [get]
    rw [hget, find?_get_self hget]

/-- Asking for names builds the missing ones. -/
theorem getAll_eq_buildAll (cache : CapsCache β κ) (names : List String) :
    cache.getAll make names = cache.buildAll make (cache.missing names) := by
  -- What is asked for last finds what the names before it have left.
  induction names using List.reverseRecOn with
  | nil => rfl
  | append_singleton names name ih =>
    have hheld := isSome_find?_buildAll_missing hmake cache names name
    rw [getAll_append, getAll_singleton, ih, missing_append_singleton, buildAll_append]
    cases hfind : (cache.buildAll make (cache.missing names)).find? name with
    | some bundle =>
      rw [hfind] at hheld
      rw [get_of_find? hfind, if_pos (hheld.mp rfl), buildAll_nil]
    | none =>
      rw [hfind] at hheld
      rw [get_snd_of_find?_eq_none hfind, if_neg fun h => absurd (hheld.mpr h) (by simp)]
      rfl

/-- What is missing for more names is missing for the first of them, and then for the others. -/
theorem missing_append (cache : CapsCache β κ) (first last : List String) :
    cache.missing (first ++ last) =
      cache.missing first ++ (cache.buildAll make (cache.missing first)).missing last := by
  induction last using List.reverseRecOn with
  | nil => simp [missing]
  | append_singleton last name ih =>
    have hheld := isSome_find?_buildAll_missing hmake cache first name
    rw [← List.append_assoc, missing_append_singleton, missing_append_singleton, ih]
    simp only [hheld, List.mem_append, or_assoc, List.append_assoc]

/-- Nothing is missing for names once what they were short of is built. -/
theorem missing_buildAll_missing (cache : CapsCache β κ) (names : List String) :
    (cache.buildAll make (cache.missing names)).missing names = [] := by
  rw [List.eq_nil_iff_forall_not_mem]
  intro name hname
  obtain ⟨hmem, hnone⟩ := mem_missing.mp hname
  have hheld := (isSome_find?_buildAll_missing hmake cache names name).mpr (.inr hmem)
  simp [hnone] at hheld

end GivesBundles

/-! ### Names that are noted -/

/-- The names that the factory of a cache has noted. -/
def noted (cache : CapsCache β (List String × κ)) : List String := cache.factory.1

theorem noted_build (cache : CapsCache β (List String × κ)) (name : String) :
    (cache.build make.recorded name).noted = cache.noted ++ [name] := by
  unfold build
  split
  · rename_i made factory hmade
    exact congrArg (·.2.1) hmade.symm
  · rename_i crash factory hmade
    exact congrArg (·.2.1) hmade.symm

/-- What is built is noted, in order. -/
theorem noted_buildAll (cache : CapsCache β (List String × κ)) (names : List String) :
    (cache.buildAll make.recorded names).noted = cache.noted ++ names := by
  induction names generalizing cache with
  | nil => simp
  | cons name names ih => rw [buildAll_cons, ih, noted_build, List.append_assoc, List.singleton_append]

end CapsCache

/-- A factory that always gives a bundle does so, too, when the names are noted. -/
theorem CapsFactory.GivesBundles.recorded {make : CapsFactory β κ} (hmake : make.GivesBundles) :
    make.recorded.GivesBundles :=
  fun name state => hmake name state.2

end ShaderDriver
