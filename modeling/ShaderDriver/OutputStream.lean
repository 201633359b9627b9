import ShaderDriver.FileTree

/-!
# ShaderDriver.OutputStream

**A file that is written front to back, with a checked close.** Opening and writing never fail
visibly: a stream remembers what went wrong, and `close` says once whether everything that was
written has been stored. An emitter can therefore write freely.

* Opening empties a regular file at once, or creates it.
* A stream keeps back up to `capacity` bytes of what is written. What exceeds that is stored at once,
  the rest when the stream is closed. The file finally holds the same either way (`settled_write`).
* A stream stores behind what it has stored before, even if another stream has emptied the file in
  the meantime.
* A full device shows its lack of room only when something is stored.
* A stream can be closed once; after that it ignores what is written and closing it again fails.
-/

namespace ShaderDriver

/-- Where an open stream stores what is written to it. -/
inductive Sink where
  | file (location : Location)
  | full
deriving DecidableEq, Repr

/-- A stream that was opened for writing. -/
structure OutputStream where
  path : String
  /-- Present while the stream is open. -/
  sink : Option Sink
  /-- Set once something could not be stored. -/
  failed : Bool := false
  /-- How many bytes have been stored. -/
  position : Nat := 0
  /-- What was written so far and is not yet stored. -/
  pending : Bytes := []
deriving DecidableEq, Repr

namespace OutputStream

/-- How many bytes a stream keeps back at most. -/
def capacity : Nat := 4096

/-- The stream of a path that could not be opened. -/
def unopened (path : String) : OutputStream := { path, sink := none, failed := true }

/-- Opens a path for writing. A regular file is emptied, and created where there was nothing. -/
def openPath (path : FilePath) (files : FileTree) : OutputStream × FileTree :=
  match files.locate? path.text with
  | none => (unopened path.text, files)
  | some location =>
    match files.node? location with
    | some .directory => (unopened path.text, files)
    | some .full => ({ path := path.text, sink := some .full }, files)
    | some (.regular _) | none =>
      ({ path := path.text, sink := some (.file location) }, files.put location (.regular []))

/-- Whether the stream is open and nothing has gone wrong yet. -/
def isValid (stream : OutputStream) : Bool := stream.sink.isSome && !stream.failed

/-- Stores `data` behind what the stream has stored before. A full device takes only nothing. -/
def store (stream : OutputStream) (data : Bytes) (files : FileTree) : OutputStream × FileTree :=
  match stream.sink with
  | none => (stream, files)
  | some (.file location) =>
    ({ stream with position := stream.position + data.length },
      files.storeAt location stream.position data)
  | some .full => ({ stream with failed := stream.failed || !data.isEmpty }, files)

/-- Stores what the stream kept back. -/
def flush (stream : OutputStream) (files : FileTree) : OutputStream × FileTree :=
  { stream with pending := [] }.store stream.pending files

/-- Writes `data`; ignored by a stream that is not valid. If the stream would have to keep back more
than its capacity, what it has kept back is stored, and so is data that exceeds the capacity by
itself. -/
def write (stream : OutputStream) (data : Bytes) (files : FileTree) : OutputStream × FileTree :=
  if !stream.isValid then (stream, files)
  else if stream.pending.length + data.length ≤ capacity then
    ({ stream with pending := stream.pending ++ data }, files)
  else
    let (stream, files) := stream.flush files
    if capacity < data.length then stream.store data files
    else ({ stream with pending := data }, files)

/-- Closes the stream and stores what it kept back. The answer is whether the stream was open and
everything written to it has been stored. -/
def close (stream : OutputStream) (files : FileTree) : Bool × OutputStream × FileTree :=
  match stream.sink with
  | none => (false, stream, files)
  | some _ =>
    let (stream, files) := stream.flush files
    (!stream.failed, { stream with sink := none }, files)

/-- A stream that failed to open has changed nothing. -/
theorem openPath_eq_of_not_isValid {path : FilePath} {files : FileTree}
    (h : (openPath path files).1.isValid = false) : (openPath path files).2 = files := by
  unfold openPath at h ⊢
  split
  · rfl
  · split <;> simp_all [isValid]

/-- A closed stream is not valid. -/
theorem isValid_close (stream : OutputStream) (files : FileTree) :
    (stream.close files).2.1.isValid = false := by
  unfold close isValid
  split <;> simp_all

/-! ### What a file finally holds -/

/-- The files as they are once the stream is closed. -/
def settled (stream : OutputStream) (files : FileTree) : FileTree := (stream.close files).2.2

theorem settled_of_file {stream : OutputStream} {location : Location}
    (h : stream.sink = some (.file location)) (files : FileTree) :
    stream.settled files = files.storeAt location stream.position stream.pending := by
  simp [settled, close, flush, store, h]

@[simp] theorem sink_store (stream : OutputStream) (data : Bytes) (files : FileTree) :
    (stream.store data files).1.sink = stream.sink := by
  unfold store
  split <;> simp_all

/-- Writing does not change where the stream stores. -/
@[simp] theorem sink_write (stream : OutputStream) (data : Bytes) (files : FileTree) :
    (stream.write data files).1.sink = stream.sink := by
  unfold write flush
  split
  · rfl
  split
  · rfl
  dsimp only
  split <;> simp

/-- What is written finally stands behind what was written before, however much of it the stream
keeps back. -/
theorem settled_write {stream : OutputStream} {location : Location}
    (hsink : stream.sink = some (.file location)) (hvalid : stream.isValid = true) (data : Bytes)
    (files : FileTree) :
    (stream.write data files).1.settled (stream.write data files).2 =
      files.storeAt location stream.position (stream.pending ++ data) := by
  rw [settled_of_file (by simpa using hsink)]
  simp only [write, hvalid, flush, store, hsink]
  split
  · contradiction
  split
  · rfl
  split <;> simp [FileTree.storeAt_storeAt]

end OutputStream

end ShaderDriver
