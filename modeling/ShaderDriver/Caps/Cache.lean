import ShaderDriver.Failure
import Std.Data.ExtTreeMap

/-!
# ShaderDriver.Caps.Cache

**One capability bundle per name.** A bundle describes the limits of a compilation target. The
driver never looks into one; it asks a factory for the bundle of a name and hands it to the
compiler. The cache keeps what the factory gave, so that a name has one bundle from then on.

* A factory may break down, and it may answer without giving a bundle. The cache notes the name in
  the second case, and asks again the next time.
* `get` only ever changes the entry of the name it is asked for: `find?_get_of_ne`.
-/

namespace ShaderDriver

/-- The bundle of a name, for drivers that need to know no more about it. -/
structure Caps where
  name : String
deriving DecidableEq, Repr

/-- What makes the bundle for a name, in a state of its own. It may give no bundle, or break
down. -/
abbrev CapsFactory (β κ : Type) : Type := String → κ → Except Crash (Option β) × κ

namespace CapsFactory

variable {β κ : Type}

/-- The factory that gives each name the bundle of that name. -/
def named : CapsFactory Caps Unit := fun name _ => (.ok (some ⟨name⟩), ())

/-- A factory that notes, in order, the names it is asked for. -/
def recorded (make : CapsFactory β κ) : CapsFactory β (List String × κ) :=
  fun name (names, state) =>
    let (made, state) := make name state
    (made, names ++ [name], state)

end CapsFactory

/-- The bundles handed out so far, and the state of the factory that makes them. -/
structure CapsCache (β κ : Type) where
  /-- What the factory gave for each name: a bundle, or none. -/
  bundles : Std.ExtTreeMap String (Option β) := ∅
  factory : κ

namespace CapsCache

variable {β κ : Type}

/-- The bundle that is kept for a name. -/
def find? (cache : CapsCache β κ) (name : String) : Option β := cache.bundles[name]?.join

/-- Whether the factory has answered for a name, with or without a bundle. -/
def contains (cache : CapsCache β κ) (name : String) : Bool := cache.bundles.contains name

/-- The number of names the factory has answered for. -/
def size (cache : CapsCache β κ) : Nat := cache.bundles.size

/-- The bundle for a name: the one that is kept, or else the one the factory `make` gives. -/
def get (make : CapsFactory β κ) (name : String) (cache : CapsCache β κ) :
    Except Crash (Option β) × CapsCache β κ :=
  match cache.find? name with
  | some bundle => (.ok (some bundle), cache)
  | none =>
    match make name cache.factory with
    | (.ok made, factory) => (.ok made, { bundles := cache.bundles.insert name made, factory })
    | (.error crash, factory) => (.error crash, { cache with factory })

/-- The name of the bundle used where nothing selects another one. -/
def standaloneName : String := "Standalone"

/-- The bundle used where nothing selects another one. -/
def standalone (make : CapsFactory β κ) (cache : CapsCache β κ) :
    Except Crash (Option β) × CapsCache β κ :=
  cache.get make standaloneName

/-- A kept bundle is handed out without asking the factory. -/
theorem get_of_find? {make : CapsFactory β κ} {name : String} {cache : CapsCache β κ} {bundle : β}
    (h : cache.find? name = some bundle) : cache.get make name = (.ok (some bundle), cache) := by
  simp [get, h]

/-- What the factory gives is kept. -/
theorem find?_get_self {make : CapsFactory β κ} {name : String} {cache : CapsCache β κ}
    {made : Option β} (h : (cache.get make name).1 = .ok made) :
    (cache.get make name).2.find? name = made := by
  cases hfind : cache.find? name with
  | some bundle =>
    rw [get_of_find? hfind] at h ⊢
    simpa [hfind] using h
  | none =>
    rcases hmake : make name cache.factory with ⟨crash | given, factory⟩ <;>
      simp_all [get, find?]

/-- A factory that breaks down leaves everything that is kept as it was. -/
theorem bundles_get_of_error {make : CapsFactory β κ} {name : String} {cache : CapsCache β κ}
    {crash : Crash} (h : (cache.get make name).1 = .error crash) :
    (cache.get make name).2.bundles = cache.bundles := by
  cases hfind : cache.find? name with
  | some bundle => simp [get_of_find? hfind] at h
  | none =>
    rcases hmake : make name cache.factory with ⟨other | given, factory⟩ <;>
      simp_all [get]

/-- Asking for one name leaves what is kept for the others. -/
theorem find?_get_of_ne {make : CapsFactory β κ} {name other : String} {cache : CapsCache β κ}
    (h : name ≠ other) : (cache.get make name).2.find? other = cache.find? other := by
  unfold get
  split
  · rfl
  · split <;> simp [find?, Std.ExtTreeMap.getElem?_insert, h]

end CapsCache

end ShaderDriver
