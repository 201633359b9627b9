import ShaderDriver.Path.Location
import ShaderDriver.ProgramKind
import ShaderDriver.Target
import ShaderDriver.Text.Search

/-!
# ShaderDriver.Proofs.Path.Endings

**A path has one ending at most.** Of two endings of a path one is an ending of the other. Where no
ending of a table is an ending of another one, at most one entry of the table matches a path
(`eq_of_endsWith`). So the table gives a path that entry, wherever it stands
(`find?_endsWith_eq_some_iff`), and its order does not matter (`find?_endsWith_of_perm`). Both tables
are of this kind, so the kind of an input and the target of an output are read off the path alone.

Of the path, they are read off the last name, which is also the last name of the location that the
path denotes (`Location.exists_getLast?_of_ofPath?`). So paths of one file have the same endings.
-/

namespace ShaderDriver

theorem endsWith_of_endsWith {path first last : String} (hfirst : endsWith path first = true)
    (hlast : endsWith path last = true) :
    first.toList <:+ last.toList ∨ last.toList <:+ first.toList :=
  List.suffix_or_suffix_of_suffix (endsWith_iff.mp hfirst) (endsWith_iff.mp hlast)

section Table

variable {α : Type} {table others : List α} {ending : α → String} {path : String}

/-- If no ending of a table is an ending of another one, a path has one of them at most. -/
theorem eq_of_endsWith
    (hdistinct : ∀ entry ∈ table, ∀ other ∈ table,
      (ending entry).toList <:+ (ending other).toList → entry = other)
    {entry other : α} (hentry : entry ∈ table) (hother : other ∈ table)
    (hends : endsWith path (ending entry) = true) (hends' : endsWith path (ending other) = true) :
    entry = other := by
  obtain hsuffix | hsuffix := endsWith_of_endsWith hends hends'
  · exact hdistinct entry hentry other hother hsuffix
  · exact (hdistinct other hother entry hentry hsuffix).symm

/-- Looking a path up in such a table finds the entry whose ending the path has. -/
theorem find?_endsWith_eq_some_iff
    (hdistinct : ∀ entry ∈ table, ∀ other ∈ table,
      (ending entry).toList <:+ (ending other).toList → entry = other)
    {entry : α} :
    table.find? (fun entry => endsWith path (ending entry)) = some entry ↔
      entry ∈ table ∧ endsWith path (ending entry) = true := by
  constructor
  · intro h
    have hends := List.find?_some h
    exact ⟨List.mem_of_find?_eq_some h, hends⟩
  · rintro ⟨hentry, hends⟩
    cases hfind : table.find? (fun entry => endsWith path (ending entry)) with
    | none => exact absurd hends (List.find?_eq_none.mp hfind entry hentry)
    | some found =>
      have hfound := List.mem_of_find?_eq_some hfind
      have hends' : endsWith path (ending found) = true := by simpa using List.find?_some hfind
      rw [eq_of_endsWith hdistinct hfound hentry hends' hends]

/-- The order of such a table makes no difference. -/
theorem find?_endsWith_of_perm
    (hdistinct : ∀ entry ∈ others, ∀ other ∈ others,
      (ending entry).toList <:+ (ending other).toList → entry = other)
    (hperm : table.Perm others) (path : String) :
    table.find? (fun entry => endsWith path (ending entry)) =
      others.find? (fun entry => endsWith path (ending entry)) := by
  have hdistinct' : ∀ entry ∈ table, ∀ other ∈ table,
      (ending entry).toList <:+ (ending other).toList → entry = other :=
    fun entry hentry other hother =>
      hdistinct entry (hperm.subset hentry) other (hperm.subset hother)
  refine Option.ext fun entry => ?_
  rw [find?_endsWith_eq_some_iff hdistinct', find?_endsWith_eq_some_iff hdistinct, hperm.mem_iff]

end Table

/-! ### Endings of locations -/

/-- What holds no separator ends a text exactly if it ends what is behind the last separator. -/
theorem suffix_append_cons_iff {α : Type} {a : α} {pattern : List α} (h : a ∉ pattern)
    (before after : List α) : pattern <:+ before ++ a :: after ↔ pattern <:+ after := by
  constructor
  · intro hsuffix
    rcases List.suffix_or_suffix_of_suffix hsuffix (List.suffix_append before (a :: after)) with
      hshort | hlong
    · rcases List.suffix_cons_iff.mp hshort with rfl | hafter
      · exact absurd List.mem_cons_self h
      · exact hafter
    · exact absurd (hlong.subset List.mem_cons_self) h
  · intro hsuffix
    exact hsuffix.trans ((List.suffix_cons a after).trans (List.suffix_append before _))

/-- The last name on a path has the endings of the path, unless they hold a slash. -/
theorem Route.exists_getLast?_names (path : String) :
    ∃ name, (names path).getLast? = some name ∧
      ∀ ending : String, '/' ∉ ending.toList → endsWith path ending = endsWith name ending := by
  by_cases hslash : '/' ∈ path.toList
  · obtain ⟨before, after, hpath, hafter⟩ := Text.exists_last_occurrence hslash
    refine ⟨String.ofList after, ?_, ?_⟩
    · rw [names, hpath, Text.splitOn_of_last hafter, List.map_append]
      exact List.getLast?_concat
    · intro ending hending
      rw [Bool.eq_iff_iff, endsWith_iff, endsWith_iff, hpath, String.toList_ofList]
      exact suffix_append_cons_iff hending before after
  · refine ⟨path, ?_, fun _ _ => rfl⟩
    rw [names, List.splitOn_eq_singleton hslash, List.map_singleton, String.ofList_toList]
    rfl

/-- The last name of the location that a path denotes has the endings of the path. -/
theorem Location.exists_getLast?_of_ofPath? {path : String} {location : Location}
    (h : ofPath? path = some location) :
    ∃ name, location.getLast? = some name ∧
      ∀ ending : String, '/' ∉ ending.toList → endsWith path ending = endsWith name ending := by
  obtain ⟨name, hlast, hends⟩ := Route.exists_getLast?_names path
  refine ⟨name, ?_, hends⟩
  obtain ⟨route, hroute, rfl⟩ := Option.map_eq_some_iff.mp h
  simp only [Route.ofPath?, hlast] at hroute
  split at hroute
  · cases hroute
  split at hroute
  · cases hroute
  split at hroute
  · cases hroute
  · obtain rfl := Option.some.inj hroute
    exact List.getLast?_concat

/-- Paths that denote one location have the same endings. -/
theorem endsWith_eq_of_ofPath? {path other : String} {location : Location}
    (h : Location.ofPath? path = some location) (hother : Location.ofPath? other = some location)
    {ending : String} (hending : '/' ∉ ending.toList) :
    endsWith path ending = endsWith other ending := by
  obtain ⟨name, hlast, hends⟩ := Location.exists_getLast?_of_ofPath? h
  obtain ⟨name', hlast', hends'⟩ := Location.exists_getLast?_of_ofPath? hother
  obtain rfl : name = name' := Option.some.inj (hlast.symm.trans hlast')
  rw [hends ending hending, hends' ending hending]

namespace ProgramKind

/-- No extension ends another one. -/
theorem extensions_distinct : ∀ entry ∈ extensions, ∀ other ∈ extensions,
    entry.1.toList <:+ other.1.toList → entry = other := by decide

/-- The kind of program in the file a path names, with the extensions of a table tried in order. -/
def ofPathWith (table : List (String × ProgramKind)) (path : String) :
    Except Failure ProgramKind :=
  match lookup? table path with
  | some kind => .ok kind
  | none => .error .unknownKind

/-- The order in which the extensions are tried makes no difference. -/
theorem ofPathWith_of_perm {table : List (String × ProgramKind)} (hperm : table.Perm extensions)
    (path : String) : ofPathWith table path = ofPath path := by
  rw [ofPathWith, lookup?, find?_endsWith_of_perm extensions_distinct hperm]
  rfl

theorem ofPath_eq_error_iff {path : String} {failure : Failure} :
    ofPath path = .error failure ↔
      failure = .unknownKind ∧ ∀ entry ∈ extensions, endsWith path entry.1 = false := by
  have hnone : lookup? extensions path = none ↔
      ∀ entry ∈ extensions, endsWith path entry.1 = false := by
    simp only [lookup?, Option.map_eq_none_iff, List.find?_eq_none, Bool.not_eq_true]
  rw [← hnone, ofPath]
  cases lookup? extensions path <;> simp [eq_comm]

theorem ofPath_eq_ok_iff {path : String} {kind : ProgramKind} :
    ofPath path = .ok kind ↔
      ∃ extension, (extension, kind) ∈ extensions ∧ endsWith path extension = true := by
  have hlookup : ofPath path = .ok kind ↔ lookup? extensions path = some kind := by
    unfold ofPath
    cases lookup? extensions path <;> simp
  rw [hlookup, lookup?, Option.map_eq_some_iff]
  constructor
  · rintro ⟨⟨extension, found⟩, hfind, rfl⟩
    exact ⟨extension, (find?_endsWith_eq_some_iff extensions_distinct).mp hfind⟩
  · rintro ⟨extension, hends⟩
    exact ⟨(extension, kind), (find?_endsWith_eq_some_iff extensions_distinct).mpr hends, rfl⟩

end ProgramKind

namespace Target

/-- No ending of a target ends that of another one. -/
theorem endings_distinct : ∀ target ∈ all, ∀ other ∈ all,
    target.ending.toList <:+ other.ending.toList → target = other := by decide

/-- The target that is written to a path, with the endings of a table tried in order. -/
def ofPathWith (table : List Target) (path : String) : Except Failure Target :=
  match lookup? table path with
  | some target => .ok target
  | none => .error .unknownTarget

/-- The order in which the endings are tried makes no difference. -/
theorem ofPathWith_of_perm {table : List Target} (hperm : table.Perm all) (path : String) :
    ofPathWith table path = ofPath path := by
  rw [ofPathWith, lookup?, find?_endsWith_of_perm endings_distinct hperm]
  rfl

theorem ofPath_eq_error_iff {path : String} {failure : Failure} :
    ofPath path = .error failure ↔
      failure = .unknownTarget ∧ ∀ target : Target, endsWith path target.ending = false := by
  have hnone : lookup? all path = none ↔ ∀ target : Target, endsWith path target.ending = false := by
    simp only [lookup?, List.find?_eq_none, Bool.not_eq_true, mem_all, true_implies]
  rw [← hnone, ofPath]
  cases lookup? all path <;> simp [eq_comm]

theorem ofPath_eq_ok_iff {path : String} {target : Target} :
    ofPath path = .ok target ↔ endsWith path target.ending = true := by
  have hlookup : ofPath path = .ok target ↔ lookup? all path = some target := by
    unfold ofPath
    cases lookup? all path <;> simp
  rw [hlookup, lookup?, find?_endsWith_eq_some_iff endings_distinct]
  simp only [mem_all, true_and]

/-- C++ targets are those of paths that end in `.h` or `.cpp`. -/
theorem permitsInvalidStaticTests_of_ofPath {path : String} {target : Target}
    (h : ofPath path = .ok target) :
    target.permitsInvalidStaticTests = (endsWith path ".h" || endsWith path ".cpp") := by
  have hends (other : Target) : endsWith path other.ending = true ↔ target = other := by
    rw [← ofPath_eq_ok_iff, h, Except.ok.injEq]
  have hheader : endsWith path ".h" = true ↔ target = .code .header := hends (.code .header)
  have hsource : endsWith path ".cpp" = true ↔ target = .code .source := hends (.code .source)
  rw [Bool.eq_iff_iff, Bool.or_eq_true, hheader, hsource]
  rcases target with ⟨_ | _ | _ | _ | _⟩ | _ <;> decide

end Target

/-- A path is that of an input and of an output exactly if it is that of a dehydrated module. -/
theorem ofPath_eq_ok_and_iff {path : String} {kind : ProgramKind} {target : Target} :
    ProgramKind.ofPath path = .ok kind ∧ Target.ofPath path = .ok target ↔
      endsWith path ".dehydrated.sksl" = true ∧ kind = .fragment ∧ target = .dehydrated := by
  rw [ProgramKind.ofPath_eq_ok_iff, Target.ofPath_eq_ok_iff]
  constructor
  · rintro ⟨⟨extension, hextension, hends⟩, htarget⟩
    -- Only one ending of an input and one of an output can end the same path.
    have hclash : ∀ entry ∈ ProgramKind.extensions, ∀ target ∈ Target.all,
        entry.1.toList <:+ target.ending.toList ∨ target.ending.toList <:+ entry.1.toList →
          entry.2 = .fragment ∧ target = .dehydrated := by decide
    obtain ⟨hkind, rfl⟩ := hclash _ hextension _ target.mem_all (endsWith_of_endsWith hends htarget)
    exact ⟨htarget, hkind, rfl⟩
  · rintro ⟨hends, rfl, rfl⟩
    have hshorter : ".sksl".toList <:+ ".dehydrated.sksl".toList := by decide
    refine ⟨⟨".sksl", by decide, ?_⟩, hends⟩
    exact endsWith_iff.mpr (hshorter.trans (endsWith_iff.mp hends))

end ShaderDriver
