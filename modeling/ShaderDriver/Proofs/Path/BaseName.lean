import Mathlib.Data.List.DropRight
import ShaderDriver.Path.BaseName
import ShaderDriver.Path.Basic

/-!
# ShaderDriver.Proofs.Path.BaseName

**Taking the base name undoes building a path.** A path has exactly one ending that is a file name:
it holds no separator, and in front of it stands nothing or a separator (`fileName_eq_iff`). So a path
that is built of a directory, a prefix, a middle and a suffix tells its middle, which is its base name
(`Builds.baseName_eq`), and a path that is not built so has none (`baseName_of_not_builds`).

A file name that starts with the prefix and ends with the suffix can still be too short for a middle
between the two. `baseName_eq_slice` says what has to be compared so that they do not overlap.
-/

namespace ShaderDriver

/-! ### File names -/

/-- What can stand in front of a file name: nothing, or something that ends in a separator. -/
def IsDirectoryPart (text : String) : Prop :=
  text = "" ∨ endsWith text "/" = true ∨ endsWith text "\\" = true

instance (text : String) : Decidable (IsDirectoryPart text) :=
  inferInstanceAs (Decidable (_ ∨ _ ∨ _))

/-- There is no separator in a text. -/
def SeparatorFree (text : String) : Prop := ∀ c ∈ text.toList, isSeparator c = false

instance (text : String) : Decidable (SeparatorFree text) :=
  List.decidableBAll (fun c => isSeparator c = false) text.toList

theorem separatorFree_append_iff {first second : String} :
    SeparatorFree (first ++ second) ↔ SeparatorFree first ∧ SeparatorFree second := by
  simp only [SeparatorFree, String.toList_append, List.forall_mem_append]

theorem isDirectoryPart_iff {text : String} :
    IsDirectoryPart text ↔ ∀ c, text.toList.getLast? = some c → isSeparator c = true := by
  have hends (c : Char) : endsWith text (String.ofList [c]) = true ↔
      text.toList.getLast? = some c := by
    rw [endsWith_iff, String.toList_ofList, List.getLast?_eq_some_iff]
    exact ⟨fun ⟨rest, h⟩ => ⟨rest, h.symm⟩, fun ⟨rest, h⟩ => ⟨rest, h.symm⟩⟩
  have hslash : endsWith text "/" = true ↔ text.toList.getLast? = some '/' := hends '/'
  have hbackslash : endsWith text "\\" = true ↔ text.toList.getLast? = some '\\' := hends '\\'
  rw [IsDirectoryPart, hslash, hbackslash, ← String.toList_eq_nil_iff, ← List.getLast?_eq_none_iff]
  cases text.toList.getLast? with
  | none => simp
  | some c => simp [isSeparator]

/-- The file name is what follows the last separator. -/
theorem fileName_append {directory name : String} (hdirectory : IsDirectoryPart directory)
    (hname : SeparatorFree name) : fileName (directory ++ name).toList = name.toList := by
  have hfree : ∀ c ∈ name.toList.reverse, (!isSeparator c) = true := by
    intro c hc
    rw [hname c (List.mem_reverse.mp hc)]
    rfl
  have hstop : directory.toList.reverse.takeWhile (!isSeparator ·) = [] := by
    cases hreverse : directory.toList.reverse with
    | nil => rfl
    | cons c rest =>
      have hlast : directory.toList.getLast? = some c := by
        rw [← List.head?_reverse, hreverse, List.head?_cons]
      simp [isDirectoryPart_iff.mp hdirectory c hlast]
  rw [fileName, String.toList_append, List.reverse_append, List.takeWhile_append_of_pos hfree,
    hstop, List.append_nil, List.reverse_reverse]

theorem fileName_eq_iff {path name : String} :
    fileName path.toList = name.toList ↔
      ∃ directory, IsDirectoryPart directory ∧ path = directory ++ name ∧ SeparatorFree name := by
  constructor
  · intro h
    refine ⟨String.ofList (path.toList.rdropWhile (!isSeparator ·)), ?_, ?_, ?_⟩
    · rw [isDirectoryPart_iff, String.toList_ofList]
      intro c hc
      have hne : path.toList.rdropWhile (!isSeparator ·) ≠ [] := by
        intro hnil
        rw [hnil] at hc
        cases hc
      have hlast := List.rdropWhile_last_not _ _ hne
      rw [List.getLast?_eq_some_getLast hne, Option.some.injEq] at hc
      rw [hc] at hlast
      simpa using hlast
    · rw [← String.toList_inj, String.toList_append, String.toList_ofList, ← h]
      exact List.rdropWhile_append_rtakeWhile.symm
    · intro c hc
      rw [← h] at hc
      have hfree : (!isSeparator c) = true := @List.mem_rtakeWhile_imp _ (!isSeparator ·) _ _ hc
      simpa using hfree
  · rintro ⟨directory, hdirectory, rfl, hname⟩
    exact fileName_append hdirectory hname

/-! ### Base names -/

/-- A path that consists of a directory part and a file name, which is `front`, `middle` and `back` in
this order. -/
def Builds (path front middle back : String) : Prop :=
  ∃ directory, IsDirectoryPart directory ∧ path = directory ++ front ++ middle ++ back ∧
    SeparatorFree (front ++ middle ++ back)

theorem builds_iff {path front middle back : String} :
    Builds path front middle back ↔
      fileName path.toList = front.toList ++ (middle.toList ++ back.toList) := by
  rw [← String.toList_append, ← String.toList_append, fileName_eq_iff, Builds]
  simp only [String.append_assoc]

/-- The base name of a path is the middle of its file name. -/
theorem Builds.baseName_eq {path front middle back : String} (h : Builds path front middle back) :
    baseName path front back = middle := by
  simp only [baseName, builds_iff.mp h, Text.stripPrefix?_append, Text.stripSuffix?_append,
    String.ofList_toList]

/-- A path whose file name is not prefix, middle and suffix has no base name. -/
theorem baseName_of_not_builds {path front back : String}
    (h : ¬ ∃ middle, Builds path front middle back) : baseName path front back = "" := by
  unfold baseName
  split
  · rfl
  · rename_i rest hfront
    split
    · rfl
    · rename_i middle hback
      refine absurd ⟨String.ofList middle, builds_iff.mpr ?_⟩ h
      rw [String.toList_ofList, Text.stripPrefix?_eq_some_iff.mp hfront,
        Text.stripSuffix?_eq_some_iff.mp hback]

/-- The base name is a slice of the file name. That the file name starts with the prefix and ends with
the suffix is not enough for it: both have to fit in side by side. -/
theorem baseName_eq_slice (path front back : String) :
    baseName path front back =
      if front.toList <+: fileName path.toList ∧ back.toList <:+ fileName path.toList ∧
          front.length + back.length ≤ (fileName path.toList).length then
        String.ofList
          (((fileName path.toList).take ((fileName path.toList).length - back.length)).drop
            front.length)
      else "" := by
  by_cases h : ∃ middle, Builds path front middle back
  · obtain ⟨middle, hbuilds⟩ := h
    rw [hbuilds.baseName_eq, builds_iff.mp hbuilds]
    have hlength : (front.toList ++ (middle.toList ++ back.toList)).length =
        front.length + (middle.length + back.length) := by
      simp only [List.length_append, String.length_toList]
    have hkept : front.length + (middle.length + back.length) - back.length =
        (front.toList ++ middle.toList).length := by
      simp only [List.length_append, String.length_toList]
      omega
    have hfits : front.length + back.length ≤ front.length + (middle.length + back.length) := by
      omega
    rw [hlength, if_pos ⟨List.prefix_append _ _, ⟨_, List.append_assoc _ _ _⟩, hfits⟩, hkept,
      ← List.append_assoc, List.take_left, ← String.length_toList, List.drop_left,
      String.ofList_toList]
  · rw [baseName_of_not_builds h, if_neg]
    rintro ⟨⟨rest, hfront⟩, hback, hlength⟩
    have hrest : back.toList <:+ rest := by
      refine List.suffix_of_suffix_length_le hback ⟨front.toList, hfront⟩ ?_
      rw [← hfront, List.length_append] at hlength
      simp only [String.length_toList] at hlength ⊢
      omega
    obtain ⟨middle, hmiddle⟩ := hrest
    refine h ⟨String.ofList middle, builds_iff.mpr ?_⟩
    rw [String.toList_ofList, hmiddle, hfront]

/-- A base name that is not empty is what the path was built around. -/
theorem builds_baseName {path front back : String} (h : baseName path front back ≠ "") :
    Builds path front (baseName path front back) back := by
  by_cases hbuilt : ∃ middle, Builds path front middle back
  · obtain ⟨middle, hbuilds⟩ := hbuilt
    rw [hbuilds.baseName_eq]
    exact hbuilds
  · exact absurd (baseName_of_not_builds hbuilt) h

theorem separatorFree_baseName (path front back : String) :
    SeparatorFree (baseName path front back) := by
  by_cases h : baseName path front back = ""
  · rw [h]
    intro c hc
    cases hc
  · obtain ⟨directory, -, -, hfree⟩ := builds_baseName h
    rw [separatorFree_append_iff, separatorFree_append_iff] at hfree
    exact hfree.1.2

/-- The base name is the inverse of building a path. A middle that is not empty is the base name of
exactly the paths that are built around it, and there is no base name otherwise; a path that is built
around any middle, the empty one too, has it as its base name. The base name holds no separator, and
there is none where prefix and suffix would have to overlap. -/
theorem baseName_inverts (path front back : String) :
    (∀ middle, middle ≠ "" →
      (baseName path front back = middle ↔ Builds path front middle back)) ∧
    ((¬ ∃ middle, middle ≠ "" ∧ Builds path front middle back) → baseName path front back = "") ∧
    (∀ directory middle, IsDirectoryPart directory → SeparatorFree front → SeparatorFree middle →
      SeparatorFree back → baseName (directory ++ front ++ middle ++ back) front back = middle) ∧
    SeparatorFree (baseName path front back) ∧
    (∀ directory name, path = directory ++ name → IsDirectoryPart directory → SeparatorFree name →
      name.length < front.length + back.length → baseName path front back = "") := by
  refine ⟨?_, ?_, ?_, separatorFree_baseName path front back, ?_⟩
  · intro middle hmiddle
    constructor
    · intro hname
      rw [← hname] at hmiddle ⊢
      exact builds_baseName hmiddle
    · exact Builds.baseName_eq
  · intro hnone
    by_contra hname
    exact hnone ⟨_, hname, builds_baseName hname⟩
  · intro directory middle hdirectory hfront hmiddle hback
    apply Builds.baseName_eq
    refine ⟨directory, hdirectory, rfl, ?_⟩
    rw [separatorFree_append_iff, separatorFree_append_iff]
    exact ⟨⟨hfront, hmiddle⟩, hback⟩
  · rintro directory name rfl hdirectory hname hshort
    rw [baseName_eq_slice, fileName_append hdirectory hname, String.length_toList, if_neg]
    rintro ⟨-, -, hlength⟩
    omega

/-- Both kinds of separators stand before `GrBlur.fp`, and `abc` starts with `ab` and ends with `bc`
but has nothing between the two. -/
theorem baseName_inverts_blur :
    baseName "src/gpu\\GrBlur.fp" "Gr" ".fp" = "Blur" ∧
    Builds "src/gpu\\GrBlur.fp" "Gr" "Blur" ".fp" ∧
    baseName "src/Gr.fp" "Gr" ".fp" = "" ∧
    baseName "src/abc" "ab" "bc" = "" := by
  obtain ⟨-, -, hbuilt, -⟩ := baseName_inverts "" "Gr" ".fp"
  obtain ⟨hiff, -⟩ := baseName_inverts "src/gpu\\GrBlur.fp" "Gr" ".fp"
  obtain ⟨-, -, -, -, hoverlap⟩ := baseName_inverts "src/abc" "ab" "bc"
  have hblur : baseName "src/gpu\\GrBlur.fp" "Gr" ".fp" = "Blur" :=
    hbuilt "src/gpu\\" "Blur" (by decide) (by decide) (by decide) (by decide)
  refine ⟨hblur, (hiff "Blur" (by decide)).mp hblur, ?_, ?_⟩
  · exact hbuilt "src/" "" (by decide) (by decide) (by decide) (by decide)
  · exact hoverlap "src/" "abc" (by decide) (by decide) (by decide) (by decide)

end ShaderDriver
