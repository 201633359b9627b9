import ShaderDriver.OutputStream

/-!
# ShaderDriver.Proofs.Stream.Content

**What a stream makes of what is written to it.** An open stream has stored a part of what was
written and keeps back the rest; `Carries` says so, of a regular file and of a full device. Writing
keeps this up (`Carries.write`), and closing settles it (`Carries.close`): the answer is whether the
sink could keep everything, and the files are those with the written bytes in the sink.

`Sink.fill` says what it means that a sink holds a content, so that a regular file, which holds
exactly what was written, and a full device, which never changes, need not be told apart.
-/

namespace ShaderDriver

/-- Storing in a regular file that was put in place is putting another one in place. -/
theorem FileTree.storeAt_put_overlay (files : FileTree) (location : Location) (content : Bytes)
    (offset : Nat) (data : Bytes) :
    (files.put location (.regular content)).storeAt location offset data =
      files.put location (.regular (overlay content offset data)) := by
  simp [storeAt, put_put_self]

/-- Storing at the end of a regular file that was put in place appends to it. -/
theorem FileTree.storeAt_put (files : FileTree) (location : Location) (stored data : Bytes) :
    (files.put location (.regular stored)).storeAt location stored.length data =
      files.put location (.regular (stored ++ data)) := by
  rw [storeAt_put_overlay, overlay_length]

/-- A regular file in place of what is no directory stands in nobody's way. -/
theorem FileTree.isDirectory_put {files : FileTree} {location : Location}
    (h : files.node? location ≠ some .directory) (content : Bytes) :
    (files.put location (.regular content)).isDirectory = files.isDirectory := by
  funext other
  by_cases hother : location = other
  · subst hother
    have hbefore : (files.node? location == some .directory) = false := beq_eq_false_iff_ne.mpr h
    simp [isDirectory, hbefore]
  · simp [isDirectory, hother]

theorem FileTree.locate?_put {files : FileTree} {location : Location}
    (h : files.node? location ≠ some .directory) (content : Bytes) (path : String) :
    (files.put location (.regular content)).locate? path = files.locate? path := by
  simp only [locate?, isDirectory_put h]

/-! ### Sinks -/

namespace Sink

/-- The files when the sink holds `content`. A full device never holds anything. -/
def fill (sink : Sink) (content : Bytes) (files : FileTree) : FileTree :=
  match sink with
  | file location => files.put location (.regular content)
  | full => files

/-- Whether a sink can keep `content`. -/
def keeps (sink : Sink) (content : Bytes) : Bool :=
  match sink with
  | file _ => true
  | full => content.isEmpty

/-- A full device keeps pieces only if there is nothing in them. -/
theorem keeps_flatten {sink : Sink} {pieces : List Bytes} :
    sink.keeps pieces.flatten = true ↔ (sink = .full → ∀ data ∈ pieces, data = []) := by
  cases sink <;> simp [keeps, List.isEmpty_iff]

end Sink

namespace OutputStream

@[simp] theorem pending_flush (out : OutputStream) (files : FileTree) :
    (out.flush files).1.pending = [] := by
  unfold flush store
  split <;> rfl

/-- A closed stream ignores what is written to it. -/
theorem write_of_closed {out : OutputStream} (h : out.sink = none) (data : Bytes)
    (files : FileTree) : out.write data files = (out, files) := by
  simp [write, isValid, h]

theorem close_of_closed {out : OutputStream} (h : out.sink = none) (files : FileTree) :
    out.close files = (false, out, files) := by
  simp [close, h]

/-- The stream is open on the sink, and what it has stored there, followed by what it keeps back, is
`written`. A full device stores nothing; the stream notices once it tries to. -/
inductive Carries (before : FileTree) : Sink → Bytes → OutputStream → FileTree → Prop
  | file {location : Location} {path : String} {stored pending : Bytes} :
    Carries before (.file location) (stored ++ pending)
      { path, sink := some (.file location), position := stored.length, pending }
      (before.put location (.regular stored))
  | full {path : String} {position : Nat} {pending : Bytes} :
    Carries before .full pending { path, sink := some .full, position, pending } before
  | failed {path : String} {position : Nat} {written pending : Bytes} (h : written ≠ []) :
    Carries before .full written { path, sink := some .full, failed := true, position, pending }
      before

namespace Carries

variable {before files : FileTree} {sink : Sink} {written : Bytes} {out : OutputStream}

theorem sink_eq (h : Carries before sink written out files) : out.sink = some sink := by
  cases h <;> rfl

/-- What is kept back counts as written. -/
theorem keep (h : Carries before sink written out files) (data : Bytes) :
    Carries before sink (written ++ data) { out with pending := out.pending ++ data } files := by
  cases h with
  | file =>
    rw [List.append_assoc]
    exact .file
  | full => exact .full
  | failed h => exact .failed (by simp [h])

theorem store (h : Carries before sink written out files) (hempty : out.pending = [])
    (data : Bytes) :
    Carries before sink (written ++ data) (out.store data files).1 (out.store data files).2 := by
  cases h with
  | @file location path stored pending =>
    obtain rfl : pending = [] := hempty
    have hstored : Carries before (.file location) ((stored ++ data) ++ [])
        { path, sink := some (.file location), position := (stored ++ data).length }
        (before.put location (.regular (stored ++ data))) := .file
    simpa [OutputStream.store, FileTree.storeAt_put] using hstored
  | full =>
    obtain rfl : written = [] := hempty
    by_cases hdata : data = []
    · subst hdata
      exact .full
    · have hfull : data.isEmpty = false := List.isEmpty_eq_false_iff.mpr hdata
      simp only [OutputStream.store, hfull]
      exact .failed hdata
  | failed h => exact .failed (by simp [h])

theorem flush (h : Carries before sink written out files) :
    Carries before sink written (out.flush files).1 (out.flush files).2 := by
  cases h with
  | @file location path stored pending =>
    have hstored : Carries before (.file location) ((stored ++ pending) ++ [])
        { path, sink := some (.file location), position := (stored ++ pending).length }
        (before.put location (.regular (stored ++ pending))) := .file
    simpa [OutputStream.flush, OutputStream.store, FileTree.storeAt_put] using hstored
  | full =>
    by_cases hwritten : written = []
    · subst hwritten
      exact .full
    · have hfull : written.isEmpty = false := List.isEmpty_eq_false_iff.mpr hwritten
      simp only [OutputStream.flush, OutputStream.store, hfull]
      exact .failed hwritten
  | failed h => exact .failed h

/-- Writing adds to what was written, however much of it the stream keeps back. -/
theorem write (h : Carries before sink written out files) (data : Bytes) :
    Carries before sink (written ++ data) (out.write data files).1 (out.write data files).2 := by
  have hflush := h.flush
  have hnone : (out.flush files).1.pending = [] := pending_flush out files
  unfold OutputStream.write
  split
  · -- Only a full device has made the stream invalid, by something written before.
    cases h with
    | file => contradiction
    | full => contradiction
    | failed h => exact .failed (by simp [h])
  split
  · exact h.keep data
  dsimp only
  split
  · exact hflush.store hnone data
  · have hkept := hflush.keep data
    rw [hnone] at hkept
    exact hkept

/-- Closing settles what was written: it answers whether the sink could keep it. -/
theorem close (h : Carries before sink written out files) :
    (out.close files).1 = sink.keeps written ∧ (out.close files).2.1.sink = none ∧
      (out.close files).2.2 = sink.fill written before := by
  have hflush := h.flush
  have hnone : (out.flush files).1.pending = [] := pending_flush out files
  simp only [OutputStream.close, h.sink_eq]
  -- Nothing is kept back any more, so the flushed stream shows what has become of the content.
  generalize out.flush files = flushed at hflush hnone ⊢
  obtain ⟨stream, after⟩ := flushed
  cases hflush with
  | @file location path stored pending =>
    obtain rfl : pending = [] := hnone
    rw [List.append_nil]
    exact ⟨rfl, trivial, rfl⟩
  | full =>
    obtain rfl : written = [] := hnone
    simp [Sink.keeps, Sink.fill]
  | failed hwritten => simp [Sink.keeps, Sink.fill, hwritten]

end Carries

/-! ### Opening -/

/-- A stream that opens carries nothing yet: a regular file is emptied. -/
theorem carries_openPath {path : FilePath} {files : FileTree} {sink : Sink}
    (h : (openPath path files).1.sink = some sink) :
    Carries files sink [] (openPath path files).1 (openPath path files).2 := by
  unfold openPath at h ⊢
  split at h
  · simp [unopened] at h
  rename_i location hlocation
  split at h
  · simp [unopened] at h
  · obtain rfl : Sink.full = sink := by simpa using h
    exact .full
  all_goals
    obtain rfl : Sink.file location = sink := by simpa using h
    exact @Carries.file files location path.text [] []

/-- Opening a path again, whatever its sink has been filled with, is like opening it at first. -/
theorem openPath_fill {path : FilePath} {files : FileTree} {sink : Sink}
    (h : (openPath path files).1.sink = some sink) (content : Bytes) :
    openPath path (sink.fill content files) = openPath path files := by
  unfold openPath at h
  split at h
  · simp [unopened] at h
  rename_i location hlocation
  split at h
  · simp [unopened] at h
  · obtain rfl : Sink.full = sink := by simpa using h
    rfl
  all_goals
    rename_i hnode
    obtain rfl : Sink.file location = sink := by simpa using h
    have hfree : files.node? location ≠ some .directory := by simp [hnode]
    have hlocate := FileTree.locate?_put hfree content path.text
    simp only [openPath, Sink.fill, hlocate, hlocation, FileTree.node?_put_self, hnode,
      FileTree.put_put_self]

end OutputStream

end ShaderDriver
