/-!
# ShaderDriver.Path.Basic

**Paths and their endings.** A path is any string. It can be opened only if it holds no U+0000;
`FilePath` is the type of the paths that do not, so that the question is asked once. What a file is
for is read off the ending of its name.
-/

namespace ShaderDriver

/-- Whether a path ends in `ending`. -/
def endsWith (path ending : String) : Bool :=
  ending.toList.isSuffixOf path.toList

theorem endsWith_iff {path ending : String} :
    endsWith path ending = true ↔ ending.toList <:+ path.toList := by
  simp [endsWith]

/-- A path that can be handed to the operating system: it holds no U+0000. -/
structure FilePath where
  text : String
  noNull : '\x00' ∉ text.toList

/-- The string as a path to open. -/
def FilePath.ofString? (text : String) : Option FilePath :=
  if h : '\x00' ∈ text.toList then none else some ⟨text, h⟩

theorem FilePath.ofString?_eq_none_iff {text : String} :
    FilePath.ofString? text = none ↔ '\x00' ∈ text.toList := by
  simp [FilePath.ofString?]

theorem FilePath.text_of_ofString? {text : String} {path : FilePath}
    (h : FilePath.ofString? text = some path) : path.text = text := by
  unfold FilePath.ofString? at h
  split at h
  · simp at h
  · simp only [Option.some.injEq] at h
    rw [← h]

end ShaderDriver
