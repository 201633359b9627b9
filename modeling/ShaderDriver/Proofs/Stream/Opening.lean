import ShaderDriver.Proofs.Stream.Content

/-!
# ShaderDriver.Proofs.Stream.Opening

**What the opening of a path looks at, and what it changes.** Following a path asks only which
locations are directories, and a job never makes or removes one. Besides that, opening a path looks
at what stands at the location that the path denotes, and nowhere else (`openPath_congr`,
`FileTree.read?_congr`); filling the sink that was opened changes nothing but that location
(`node?_fill`).
-/

namespace ShaderDriver

/-! ### Looking -/

namespace FileTree

variable {files other : FileTree}

theorem locate?_congr (hdirs : other.isDirectory = files.isDirectory) (path : String) :
    other.locate? path = files.locate? path := by
  simp only [locate?, hdirs]

end FileTree

namespace OutputStream

variable {path : FilePath} {files other : FileTree} {sink : Sink}

/-- Whether and how a path opens is a matter of what stands where it leads. -/
theorem openPath_congr (hdirs : other.isDirectory = files.isDirectory)
    (hnode : ∀ location, Location.ofPath? path.text = some location →
      other.node? location = files.node? location) :
    (openPath path other).1 = (openPath path files).1 := by
  simp only [openPath, FileTree.locate?_congr hdirs]
  cases hlocate : files.locate? path.text with
  | none => rfl
  | some location =>
    simp only [hnode location (FileTree.ofPath?_of_locate? hlocate)]
    rcases files.node? location with _ | _ | _ | _ <;> rfl

/-- A path that opens for writing gives a fresh stream, and its sink is emptied. -/
theorem openPath_of_sink (h : (openPath path files).1.sink = some sink) :
    openPath path files = ({ path := path.text, sink := some sink }, sink.fill [] files) := by
  unfold openPath at h ⊢
  cases hlocate : files.locate? path.text with
  | none => simp [hlocate, unopened] at h
  | some location =>
    simp only [hlocate] at h ⊢
    rcases hnode : files.node? location with _ | content | _ | _
    case some.directory => simp [hnode, unopened] at h
    all_goals
      simp only [hnode, Option.some.injEq] at h
      subst h
      rfl

/-- A sink that a path opens stands at the location that the path denotes. -/
theorem denotes_of_openPath {location : Location}
    (h : (openPath path files).1.sink = some (.file location)) :
    Location.ofPath? path.text = some location ∧ files.node? location ≠ some .directory ∧
      files.node? location ≠ some .full := by
  unfold openPath at h
  cases hlocate : files.locate? path.text with
  | none => simp [hlocate, unopened] at h
  | some place =>
    have hplace := FileTree.ofPath?_of_locate? hlocate
    simp only [hlocate] at h
    rcases hnode : files.node? place with _ | content | _ | _
    case some.directory => simp [hnode, unopened] at h
    case some.full => simp [hnode] at h
    all_goals
      simp only [hnode, Option.some.injEq, Sink.file.injEq] at h
      subst h
      simp [hplace, hnode]

/-- A path opens on a full device only where there is one. -/
theorem full_of_openPath (h : (openPath path files).1.sink = some .full) {location : Location}
    (hpath : Location.ofPath? path.text = some location) :
    files.node? location = some .full := by
  unfold openPath at h
  cases hlocate : files.locate? path.text with
  | none => simp [hlocate, unopened] at h
  | some place =>
    obtain rfl : place = location :=
      Option.some.inj ((FileTree.ofPath?_of_locate? hlocate).symm.trans hpath)
    simp only [hlocate] at h
    rcases hnode : files.node? place with _ | _ | _ | _ <;> simp_all [unopened]

end OutputStream

/-! ### Filling -/

namespace Sink

variable {path : FilePath} {files : FileTree} {sink : Sink}

/-- Filling the sink of a path changes nothing but the location that the path denotes. -/
theorem node?_fill (h : (OutputStream.openPath path files).1.sink = some sink) (content : Bytes)
    {location : Location} (hne : Location.ofPath? path.text ≠ some location) :
    (sink.fill content files).node? location = files.node? location := by
  cases sink with
  | full => rfl
  | file place =>
    have hplace : place ≠ location := by
      rintro rfl
      exact hne (OutputStream.denotes_of_openPath h).1
    exact FileTree.node?_put_of_ne files _ hplace

/-- Filling the sink of a path makes and removes no directory. -/
theorem isDirectory_fill (h : (OutputStream.openPath path files).1.sink = some sink)
    (content : Bytes) : (sink.fill content files).isDirectory = files.isDirectory := by
  cases sink with
  | full => rfl
  | file place => exact FileTree.isDirectory_put (OutputStream.denotes_of_openPath h).2.1 content

end Sink

end ShaderDriver
