import ShaderDriver.Config.Load
import ShaderDriver.Proofs.Config.Modules

/-!
# ShaderDriver.Proofs.Config.Resolution

**What the name of a factory resolves to.** A name is read as that of a module and a path of
attributes, cut at its first colon; the module is imported, the path is followed, and what it leads to
has to be callable. `Resolves` says when all of this succeeds, and `Faulty` has one rule for each step
that can be the first to fail. Loading the factory of a name gives the one that the name resolves to
(`loadFactory_eq_ok_iff`), or the fault that it has (`loadFactory_eq_error_iff`).
-/

namespace ShaderDriver.Config

variable {φ : Type} {modules : ModuleTable φ} {spec moduleName path : String}

/-- A name consists of a module and a path of attributes, with a colon between them. Neither of the
two is empty, and the module has no colon. -/
structure Names (spec moduleName path : String) : Prop where
  spec_eq : spec = moduleName ++ ":" ++ path
  moduleName_ne : moduleName ≠ ""
  notMem : ':' ∉ moduleName.toList
  path_ne : path ≠ ""

/-- A module has an attribute at a path, through attributes that all hold something. -/
def HasAt (found : Module φ) (path : String) (target : Attribute φ) : Prop :=
  ∃ names, Dotted names path ∧ Attribute.Reaches found.value names target

/-- A name resolves to a factory: the module can be imported, and the path leads from it to an
attribute that can be called. What it passes through need not be callable. -/
def Resolves (modules : ModuleTable φ) (spec : String) (factory : φ) : Prop :=
  ∃ moduleName path found members, Names spec moduleName path ∧
    modules.Imports moduleName found ∧ HasAt found path (.object (some factory) members)

/-- A name has a fault: this step is the first that fails. -/
inductive Faulty (modules : ModuleTable φ) (spec : String) : Fault → Prop
  | malformed (hform : ∀ moduleName path, ¬ Names spec moduleName path) :
    Faulty modules spec (.malformed spec)
  | importFailed {moduleName path : String} {fault : ImportFault}
    (hnames : Names spec moduleName path) (himport : modules.ImportFails moduleName fault) :
    Faulty modules spec (.importFailed moduleName fault)
  | missingAttribute {moduleName path : String} {found : Module φ}
    (hnames : Names spec moduleName path) (himport : modules.Imports moduleName found)
    (hmissing : ∀ target, ¬ HasAt found path target) :
    Faulty modules spec (.missingAttribute moduleName path)
  | notCallable {moduleName path : String} {found : Module φ}
    {members : List (String × Attribute φ)} (hnames : Names spec moduleName path)
    (himport : modules.Imports moduleName found) (hhas : HasAt found path (.object none members)) :
    Faulty modules spec (.notCallable spec)

/-! ### The form of a name -/

theorem parseSpec?_eq_some_iff :
    parseSpec? spec = some (moduleName, path) ↔ Names spec moduleName path := by
  constructor
  · intro h
    unfold parseSpec? at h
    split at h
    · cases h
    · rename_i before after hbreak
      obtain ⟨hspec, hbefore⟩ := Text.breakOn?_singleton_eq_some_iff.mp hbreak
      split at h
      · cases h
      · rename_i hparts
        rw [not_or] at hparts
        obtain ⟨rfl, rfl⟩ := Prod.mk.inj (Option.some.inj h)
        refine ⟨?_, by simpa using hparts.1, by simpa using hbefore, by simpa using hparts.2⟩
        rw [← String.toList_inj, hspec]
        simp
  · rintro ⟨rfl, hmodule, hcolon, hpath⟩
    have hbreak : Text.breakOn? [':'] (moduleName ++ ":" ++ path).toList =
        some (moduleName.toList, path.toList) :=
      Text.breakOn?_singleton_eq_some_iff.mpr ⟨by simp, hcolon⟩
    rw [parseSpec?, hbreak]
    simp [hmodule, hpath]

theorem parseSpec?_eq_none_iff :
    parseSpec? spec = none ↔ ∀ moduleName path, ¬ Names spec moduleName path := by
  simp only [← parseSpec?_eq_some_iff, Option.eq_none_iff_forall_not_mem, Option.mem_def,
    Prod.forall]

/-! ### Attributes of a module -/

theorem follow?_parts_eq_some_iff {found : Module φ} {target : Attribute φ} :
    found.value.follow? (ModuleTable.parts path) = some target ↔ HasAt found path target := by
  rw [Attribute.follow?_eq_some_iff]
  constructor
  · intro h
    exact ⟨_, ModuleTable.parts_eq_iff.mp rfl, h⟩
  · rintro ⟨names, hdotted, h⟩
    rwa [ModuleTable.parts_eq_iff.mpr hdotted]

/-- What names lead to from a module holds something. -/
theorem HasAt.ne_nothing {found : Module φ} {target : Attribute φ} (h : HasAt found path target) :
    target ≠ .nothing := by
  obtain ⟨names, -, hreaches⟩ := h
  exact hreaches.ne_nothing nofun

/-! ### Factories -/

section Load

variable {found : Module φ} (hnames : Names spec moduleName path)
  (himport : modules.Imports moduleName found)

include hnames himport

theorem loadFactory_of_hasAt {callable : Option φ} {members : List (String × Attribute φ)}
    (h : HasAt found path (.object callable members)) :
    loadFactory modules spec = callable.elim (.error (.notCallable spec)) .ok := by
  simp only [loadFactory, parseSpec?_eq_some_iff.mpr hnames, ModuleTable.load_eq_ok_iff.mpr himport,
    follow?_parts_eq_some_iff.mpr h, Attribute.callable?]
  cases callable <;> rfl

theorem loadFactory_of_not_hasAt (h : ∀ target, ¬ HasAt found path target) :
    loadFactory modules spec = .error (.missingAttribute moduleName path) := by
  have hfollow : found.value.follow? (ModuleTable.parts path) = none :=
    Option.eq_none_iff_forall_not_mem.mpr fun target htarget =>
      h target (follow?_parts_eq_some_iff.mp htarget)
  simp only [loadFactory, parseSpec?_eq_some_iff.mpr hnames, ModuleTable.load_eq_ok_iff.mpr himport,
    hfollow]

end Load

/-- A name resolves or has a fault, and loading its factory shows which. -/
theorem loadFactory_cases (modules : ModuleTable φ) (spec : String) :
    (∃ factory, loadFactory modules spec = .ok factory ∧ Resolves modules spec factory) ∨
      ∃ fault, loadFactory modules spec = .error fault ∧ Faulty modules spec fault := by
  cases hparse : parseSpec? spec with
  | none =>
    refine .inr ⟨.malformed spec, ?_, .malformed (parseSpec?_eq_none_iff.mp hparse)⟩
    rw [loadFactory, hparse]
  | some name =>
    obtain ⟨moduleName, path⟩ := name
    have hnames := parseSpec?_eq_some_iff.mp hparse
    cases hload : modules.load moduleName with
    | error fault =>
      have hfails := ModuleTable.load_eq_error_iff.mp hload
      refine .inr ⟨.importFailed moduleName fault, ?_, .importFailed hnames hfails⟩
      simp only [loadFactory, hparse, hload]
    | ok found =>
      have himport := ModuleTable.load_eq_ok_iff.mp hload
      by_cases hhas : ∃ target, HasAt found path target
      · obtain ⟨target, hhas⟩ := hhas
        cases target with
        | nothing => exact absurd rfl hhas.ne_nothing
        | object callable members =>
          have hloaded := loadFactory_of_hasAt hnames himport hhas
          cases callable with
          | none => exact .inr ⟨_, hloaded, .notCallable hnames himport hhas⟩
          | some factory =>
            exact .inl ⟨factory, hloaded, moduleName, path, found, members, hnames, himport, hhas⟩
      · have hmissing := not_exists.mp hhas
        exact .inr ⟨_, loadFactory_of_not_hasAt hnames himport hmissing,
          .missingAttribute hnames himport hmissing⟩

/-- A factory is loaded exactly if the name resolves to it. -/
theorem loadFactory_eq_ok_iff {factory : φ} :
    loadFactory modules spec = .ok factory ↔ Resolves modules spec factory := by
  constructor
  · intro hload
    obtain ⟨other, hother, hresolves⟩ | ⟨fault, hfault, -⟩ := loadFactory_cases modules spec
    · rwa [← Except.ok.inj (hother.symm.trans hload)]
    · cases hfault.symm.trans hload
  · rintro ⟨moduleName, path, found, members, hnames, himport, hhas⟩
    exact loadFactory_of_hasAt hnames himport hhas

/-- A name is refused exactly if it has a fault, and for that fault. -/
theorem loadFactory_eq_error_iff {fault : Fault} :
    loadFactory modules spec = .error fault ↔ Faulty modules spec fault := by
  constructor
  · intro hload
    obtain ⟨factory, hfactory, -⟩ | ⟨other, hother, hfaulty⟩ := loadFactory_cases modules spec
    · cases hfactory.symm.trans hload
    · rwa [← Except.error.inj (hother.symm.trans hload)]
  · intro hfaulty
    cases hfaulty with
    | malformed hform => rw [loadFactory, parseSpec?_eq_none_iff.mpr hform]
    | importFailed hnames himport =>
      simp only [loadFactory, parseSpec?_eq_some_iff.mpr hnames,
        ModuleTable.load_eq_error_iff.mpr himport]
    | missingAttribute hnames himport hmissing =>
      exact loadFactory_of_not_hasAt hnames himport hmissing
    | notCallable hnames himport hhas => exact loadFactory_of_hasAt hnames himport hhas

end ShaderDriver.Config
