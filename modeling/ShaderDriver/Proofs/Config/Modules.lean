import ShaderDriver.Config.ModuleTable
import ShaderDriver.Text.Search

/-!
# ShaderDriver.Proofs.Config.Modules

**What the attributes of modules lead to, and which modules can be imported.** Names are followed
from attribute to attribute as long as these are there and hold something
(`Attribute.follow?_eq_some_iff`).

A module stands above another one if its name, a dot and something more make up the name of the other
(`Above`). A module can be imported if its name is absolute and it exists, and so do all modules above
it (`ModuleTable.load_eq_ok_iff`). Otherwise the first module that does not exist is reported, counted
from above (`ModuleTable.load_eq_error_iff`). Names with a dot are cut at the last one, since to import
a module is to import what stands right above it and to look up one name more
(`ModuleTable.load_below`); `dotted_induction` is the induction for that.
-/

namespace ShaderDriver.Config

/-! ### Attributes -/

namespace Attribute

variable {φ : Type} {value next target : Attribute φ} {name : String} {names : List String}

/-- Names lead from a value to another one, each to an attribute that is there and holds something.
The empty name leads nowhere. -/
inductive Reaches : Attribute φ → List String → Attribute φ → Prop
  | here (value : Attribute φ) : Reaches value [] value
  | through {callable : Option φ} {members : List (String × Attribute φ)} {name : String}
    {names : List String} {next target : Attribute φ} (hname : name ≠ "")
    (hmember : members.lookup name = some next) (hholds : next ≠ .nothing)
    (hrest : Reaches next names target) : Reaches (.object callable members) (name :: names) target

theorem member?_eq_some_iff :
    value.member? name = some next ↔
      ∃ callable members, value = .object callable members ∧ name ≠ "" ∧
        members.lookup name = some next ∧ next ≠ .nothing := by
  constructor
  · intro h
    cases value with
    | nothing => cases h
    | object callable members =>
      rw [member?] at h
      split at h
      · cases h
      · rename_i hname
        split at h
        · rename_i hlookup
          obtain rfl := Option.some.inj h
          exact ⟨callable, members, rfl, hname, hlookup, nofun⟩
        · cases h
        · cases h
  · rintro ⟨callable, members, rfl, hname, hlookup, hholds⟩
    cases next with
    | nothing => exact absurd rfl hholds
    | object callable members => simp only [member?, if_neg hname, hlookup]

theorem follow?_eq_some_iff : value.follow? names = some target ↔ Reaches value names target := by
  induction names generalizing value with
  | nil =>
    refine ⟨fun h => ?_, ?_⟩
    · obtain rfl := Option.some.inj h
      exact .here value
    · rintro ⟨⟩
      rfl
  | cons name names ih =>
    rw [follow?]
    constructor
    · intro h
      cases hmember : value.member? name with
      | none => simp [hmember] at h
      | some next =>
        rw [hmember] at h
        obtain ⟨callable, members, rfl, hname, hlookup, hholds⟩ := member?_eq_some_iff.mp hmember
        exact .through hname hlookup hholds (ih.mp h)
    · rintro (_ | ⟨hname, hlookup, hholds, hrest⟩)
      rw [member?_eq_some_iff.mpr ⟨_, _, rfl, hname, hlookup, hholds⟩]
      exact ih.mpr hrest

theorem Reaches.ne_nothing (h : Reaches value names target) (hvalue : value ≠ .nothing) :
    target ≠ .nothing := by
  induction h with
  | here => exact hvalue
  | through _ _ hholds _ ih => exact ih hholds

end Attribute

/-! ### Dotted names -/

theorem toList_below (above part : String) :
    (above ++ "." ++ part).toList = above.toList ++ '.' :: part.toList := by
  simp

/-- The first name, a dot and something more make up the second one. -/
def Above (above name : String) : Prop := ∃ rest, name = above ++ "." ++ rest

theorem not_above_of_notMem {above name : String} (h : '.' ∉ name.toList) : ¬ Above above name := by
  rintro ⟨rest, rfl⟩
  simp at h

/-- What stands above a name of several parts is the name without its last part, or above that. -/
theorem above_below_iff {other above part : String} (h : '.' ∉ part.toList) :
    Above other (above ++ "." ++ part) ↔ other = above ∨ Above other above := by
  constructor
  · rintro ⟨rest, hname⟩
    have hlist := congrArg String.toList hname
    rw [toList_below, toList_below] at hlist
    obtain ⟨tail, hother, htail⟩ | ⟨tail, habove, htail⟩ := List.append_eq_append_iff.mp hlist
    · cases tail with
      | nil => exact .inl (String.toList_inj.mp (by simpa using hother))
      | cons c tail =>
        -- The dot behind `other` would stand in the last part.
        have hpart : part.toList = tail ++ '.' :: rest.toList := (List.cons.inj htail).2
        simp [hpart] at h
    · cases tail with
      | nil => exact .inl (String.toList_inj.mp (by simpa using habove.symm))
      | cons c tail =>
        obtain ⟨rfl, -⟩ := List.cons.inj htail
        refine .inr ⟨String.ofList tail, String.toList_inj.mp ?_⟩
        rw [toList_below, habove, String.toList_ofList]
  · rintro (rfl | ⟨rest, rfl⟩)
    · exact ⟨part, rfl⟩
    · exact ⟨rest ++ "." ++ part, by simp only [String.append_assoc]⟩

/-- A name has no dot, or it is cut at the last one. -/
theorem dotted_induction {motive : String → Prop}
    (single : ∀ name : String, '.' ∉ name.toList → motive name)
    (below : ∀ above part : String, '.' ∉ part.toList → motive above →
      motive (above ++ "." ++ part))
    (name : String) : motive name := by
  induction hlength : name.length using Nat.strongRecOn generalizing name with
  | _ length ih =>
    by_cases h : '.' ∈ name.toList
    · obtain ⟨before, after, hname, hafter⟩ := Text.exists_last_occurrence h
      obtain rfl : name = String.ofList before ++ "." ++ String.ofList after := by
        rw [← String.toList_inj, hname, toList_below, String.toList_ofList, String.toList_ofList]
      have hshorter : (String.ofList before).length < length := by
        rw [← hlength, ← String.length_toList, ← String.length_toList, hname, List.length_append,
          List.length_cons, String.toList_ofList]
        omega
      exact below _ _ (by simpa using hafter) (ih _ hshorter _ rfl)
    · exact single name h

/-- A path consists of these parts: there is no dot in any of them, and joined by dots they are the
path. -/
structure Dotted (names : List String) (path : String) : Prop where
  ne_nil : names ≠ []
  notMem : ∀ name ∈ names, '.' ∉ name.toList
  path_eq : path = ".".intercalate names

namespace ModuleTable

theorem parts_of_notMem {name : String} (h : '.' ∉ name.toList) : parts name = [name] := by
  rw [parts, List.splitOn_eq_singleton h, List.map_singleton, String.ofList_toList]

/-- The last part of a name is what follows the last dot. -/
theorem parts_below (above : String) {part : String} (h : '.' ∉ part.toList) :
    parts (above ++ "." ++ part) = parts above ++ [part] := by
  rw [parts, toList_below, Text.splitOn_of_last h, List.map_append, List.map_singleton,
    String.ofList_toList]
  rfl

theorem notMem_of_mem_parts (path : String) : ∀ name ∈ parts path, '.' ∉ name.toList := by
  induction path using dotted_induction with
  | single name h =>
    rw [parts_of_notMem h]
    exact List.forall_mem_singleton.mpr h
  | below above part h ih =>
    rw [parts_below above h]
    exact List.forall_mem_append.mpr ⟨ih, List.forall_mem_singleton.mpr h⟩

/-- There is one way to read a path as parts. -/
theorem parts_eq_iff {path : String} {names : List String} :
    parts path = names ↔ Dotted names path := by
  constructor
  · rintro rfl
    refine ⟨by simp [parts, List.splitOn_ne_nil], notMem_of_mem_parts path, ?_⟩
    rw [← String.toList_inj, String.toList_intercalate, parts, List.map_map]
    simp
  · rintro ⟨hne, hnotMem, rfl⟩
    have hparts : ∀ part ∈ names.map String.toList, '.' ∉ part := List.forall_mem_map.mpr hnotMem
    have hsplit := List.splitOn_intercalate '.' hparts (by simpa using hne)
    have hdot : ".".toList = ['.'] := rfl
    rw [parts, String.toList_intercalate, hdot, hsplit, List.map_map]
    simp

variable {φ : Type} {modules : ModuleTable φ}

theorem name_of_find? {name : String} {found : Module φ} (h : modules.find? name = some found) :
    found.name = name := by
  simpa using List.find?_some h

/-! ### Imports -/

/-- The module of a name can be imported: the name is absolute, and the module exists, and so do all
modules above it. -/
structure Imports (modules : ModuleTable φ) (name : String) (found : Module φ) : Prop where
  absolute : name.toList.head? ≠ some '.'
  above : ∀ above, Above above name → ∃ other, modules.find? above = some other
  find? : modules.find? name = some found

/-- The module of a name cannot be imported, for this reason: the name is relative, or there is a
module that does not exist while all those above it do. -/
inductive ImportFails (modules : ModuleTable φ) : String → ImportFault → Prop
  | relative {name : String} (h : name.toList.head? = some '.') :
    ImportFails modules name (.relative name)
  | top {name : String} (hname : '.' ∉ name.toList) (hfind : modules.find? name = none) :
    ImportFails modules name (.missing name)
  | inPackage {above part : String} {other : Module φ} (hpart : '.' ∉ part.toList)
    (habsolute : (above ++ "." ++ part).toList.head? ≠ some '.')
    (habove : Imports modules above other) (hpackage : other.isPackage = true)
    (hfind : modules.find? (above ++ "." ++ part) = none) :
    ImportFails modules (above ++ "." ++ part) (.missing (above ++ "." ++ part))
  | inModule {above part : String} {other : Module φ} (hpart : '.' ∉ part.toList)
    (habsolute : (above ++ "." ++ part).toList.head? ≠ some '.')
    (habove : Imports modules above other) (hmodule : other.isPackage = false)
    (hfind : modules.find? (above ++ "." ++ part) = none) :
    ImportFails modules (above ++ "." ++ part) (.missingBelow (above ++ "." ++ part) above)
  /-- What stands right above it cannot be imported. -/
  | above {above part : String} {fault : ImportFault} (hpart : '.' ∉ part.toList)
    (habsolute : (above ++ "." ++ part).toList.head? ≠ some '.')
    (habove : ImportFails modules above fault) : ImportFails modules (above ++ "." ++ part) fault

theorem load_of_relative {name : String} (h : name.toList.head? = some '.') :
    modules.load name = .error (.relative name) := by
  rw [load, if_pos h]

theorem load_of_notMem {name : String} (h : '.' ∉ name.toList) :
    modules.load name =
      match modules.find? name with
      | none => .error (.missing name)
      | some found => .ok found := by
  have habsolute : name.toList.head? ≠ some '.' := fun hhead => h (List.mem_of_head? hhead)
  rw [load, if_neg habsolute, parts_of_notMem h]
  rfl

theorem descend_append (modules : ModuleTable φ) (above : Module φ) (first rest : List String) :
    modules.descend above (first ++ rest) =
      match modules.descend above first with
      | .error fault => .error fault
      | .ok last => modules.descend last rest := by
  induction first generalizing above with
  | nil => rfl
  | cons part first ih =>
    rw [List.cons_append, descend, descend]
    cases modules.find? (above.name ++ "." ++ part) with
    | none => rfl
    | some below => exact ih below

/-- What stands above an absolute name is an absolute name. -/
theorem absolute_above {above part : String}
    (h : (above ++ "." ++ part).toList.head? ≠ some '.') : above.toList.head? ≠ some '.' := by
  intro habove
  rw [toList_below, List.head?_append, habove] at h
  exact h rfl

section Below

variable {above part : String} (hpart : '.' ∉ part.toList)
  (habsolute : (above ++ "." ++ part).toList.head? ≠ some '.')

include hpart habsolute

/-- Importing a module starts by importing what stands right above it. -/
theorem load_below :
    modules.load (above ++ "." ++ part) =
      match modules.load above with
      | .error fault => .error fault
      | .ok last => modules.descend last [part] := by
  rw [load, if_neg habsolute, load, if_neg (absolute_above habsolute), parts_below above hpart]
  cases hparts : parts above with
  | nil => exact absurd hparts (parts_eq_iff.mp rfl).ne_nil
  | cons first rest =>
    rw [List.cons_append]
    dsimp only
    cases modules.find? first with
    | none => rfl
    | some top => exact descend_append modules top rest [part]

theorem load_below_of_error {fault : ImportFault} (h : modules.load above = .error fault) :
    modules.load (above ++ "." ++ part) = .error fault := by
  rw [load_below hpart habsolute, h]

theorem load_below_of_ok {other : Module φ} (h : modules.load above = .ok other)
    (hname : other.name = above) :
    modules.load (above ++ "." ++ part) =
      match modules.find? (above ++ "." ++ part) with
      | some found => .ok found
      | none => .error (if other.isPackage then .missing (above ++ "." ++ part)
          else .missingBelow (above ++ "." ++ part) above) := by
  rw [load_below hpart habsolute, h]
  dsimp only
  rw [descend, hname]
  rfl

/-- A module can be imported exactly if what stands right above it can be, and it exists. -/
theorem imports_below_iff {found : Module φ} :
    Imports modules (above ++ "." ++ part) found ↔
      (∃ other, Imports modules above other) ∧
        modules.find? (above ++ "." ++ part) = some found := by
  constructor
  · rintro ⟨-, habove, hfind⟩
    obtain ⟨other, hother⟩ := habove above ⟨part, rfl⟩
    refine ⟨⟨other, absolute_above habsolute, fun name hname => ?_, hother⟩, hfind⟩
    exact habove name ((above_below_iff hpart).mpr (.inr hname))
  · rintro ⟨⟨other, -, habove, hother⟩, hfind⟩
    refine ⟨habsolute, fun name hname => ?_, hfind⟩
    obtain rfl | hname := (above_below_iff hpart).mp hname
    · exact ⟨other, hother⟩
    · exact habove name hname

end Below

/-- Importing finds a module exactly if it and all modules above it exist. -/
theorem load_eq_ok_iff {name : String} {found : Module φ} :
    modules.load name = .ok found ↔ Imports modules name found := by
  induction name using dotted_induction generalizing found with
  | single name hname =>
    have habsolute : name.toList.head? ≠ some '.' := fun hhead => hname (List.mem_of_head? hhead)
    have hfind : modules.load name = .ok found ↔ modules.find? name = some found := by
      rw [load_of_notMem hname]
      cases modules.find? name <;> simp
    rw [hfind]
    exact ⟨fun h => ⟨habsolute, fun _ habove => absurd habove (not_above_of_notMem hname), h⟩,
      Imports.find?⟩
  | below above part hpart ih =>
    by_cases habsolute : (above ++ "." ++ part).toList.head? = some '.'
    · rw [load_of_relative habsolute]
      exact ⟨nofun, fun h => absurd habsolute h.absolute⟩
    rw [imports_below_iff hpart habsolute]
    cases hload : modules.load above with
    | error fault =>
      have hfails : ¬ ∃ other, Imports modules above other := by
        rintro ⟨other, hother⟩
        cases hload.symm.trans (ih.mpr hother)
      rw [load_below_of_error hpart habsolute hload]
      simp [hfails]
    | ok other =>
      have hother := ih.mp hload
      rw [load_below_of_ok hpart habsolute hload (name_of_find? hother.find?),
        and_iff_right ⟨other, hother⟩]
      cases modules.find? (above ++ "." ++ part) <;> simp

/-- Importing fails for the reasons there are. -/
theorem load_eq_error_iff {name : String} {fault : ImportFault} :
    modules.load name = .error fault ↔ ImportFails modules name fault := by
  constructor
  · intro hload
    induction name using dotted_induction generalizing fault with
    | single name hname =>
      rw [load_of_notMem hname] at hload
      cases hfind : modules.find? name with
      | none =>
        rw [hfind] at hload
        obtain rfl := Except.error.inj hload
        exact .top hname hfind
      | some found => simp [hfind] at hload
    | below above part hpart ih =>
      by_cases habsolute : (above ++ "." ++ part).toList.head? = some '.'
      · rw [load_of_relative habsolute] at hload
        obtain rfl := Except.error.inj hload
        exact .relative habsolute
      cases habove : modules.load above with
      | error other =>
        rw [load_below_of_error hpart habsolute habove] at hload
        obtain rfl := Except.error.inj hload
        exact .above hpart habsolute (ih habove)
      | ok other =>
        have hother := load_eq_ok_iff.mp habove
        rw [load_below_of_ok hpart habsolute habove (name_of_find? hother.find?)] at hload
        cases hfind : modules.find? (above ++ "." ++ part) with
        | some found => simp [hfind] at hload
        | none =>
          rw [hfind] at hload
          obtain rfl := Except.error.inj hload
          cases hpackage : other.isPackage with
          | true => exact .inPackage hpart habsolute hother hpackage hfind
          | false => exact .inModule hpart habsolute hother hpackage hfind
  · intro hfails
    induction hfails with
    | relative h => exact load_of_relative h
    | top hname hfind => rw [load_of_notMem hname, hfind]
    | inPackage hpart habsolute habove hpackage hfind
    | inModule hpart habsolute habove hmodule hfind =>
      rw [load_below_of_ok hpart habsolute (load_eq_ok_iff.mpr habove)
        (name_of_find? habove.find?), hfind]
      simp [*]
    | above hpart habsolute _ ih => exact load_below_of_error hpart habsolute ih

end ModuleTable

end ShaderDriver.Config
