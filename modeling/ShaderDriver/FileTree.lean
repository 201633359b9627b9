import ShaderDriver.Path.Basic
import ShaderDriver.Path.Location
import ShaderDriver.Text.Bytes
import Std.Data.ExtTreeMap

/-!
# ShaderDriver.FileTree

**The files that jobs read and write.** A tree maps locations to what stands there. Trees are equal
when they hold the same at every location (`FileTree.ext_node?`), so "the same file system" is
plain equality.

* A regular file holds bytes. A *full* device opens for writing like a file but can keep nothing.
* `locate?` follows a path: every directory on its way has to exist.

A tree keeps locations apart, and a file that has two of them (see `Location`) is two files in it:
what is written at one is not read at the other. So a tree stands for a file system as long as no
file is come to both by an absolute and by a relative path, or by two names that are linked.
-/

namespace ShaderDriver

/-- What stands at a location. -/
inductive Node where
  | regular (content : Bytes)
  | directory
  /-- A device that accepts being opened for writing and has no room for a single byte. -/
  | full
deriving DecidableEq, Repr

/-- A file system: what stands at each location below the current directory. -/
structure FileTree where
  nodes : Std.ExtTreeMap Location Node := ∅

namespace FileTree

/-- What stands at a location, if anything does. -/
def node? (files : FileTree) (location : Location) : Option Node := files.nodes[location]?

/-- The tree with `node` at the location. -/
def put (files : FileTree) (location : Location) (node : Node) : FileTree :=
  ⟨files.nodes.insert location node⟩

/-- Everything in the tree, ordered by location. -/
def toList (files : FileTree) : List (Location × Node) := files.nodes.toList

@[simp] theorem node?_empty (location : Location) : node? {} location = none := by
  simp [node?]

theorem node?_put (files : FileTree) (place location : Location) (node : Node) :
    (files.put place node).node? location =
      if place = location then some node else files.node? location := by
  simp [node?, put, Std.ExtTreeMap.getElem?_insert]

@[simp] theorem node?_put_self (files : FileTree) (location : Location) (node : Node) :
    (files.put location node).node? location = some node := by
  simp [node?_put]

@[simp] theorem node?_put_of_ne (files : FileTree) {place location : Location} (node : Node)
    (h : place ≠ location) : (files.put place node).node? location = files.node? location := by
  simp [node?_put, h]

/-- Trees that hold the same at every location are equal. -/
theorem ext_node? {files other : FileTree}
    (h : ∀ location, files.node? location = other.node? location) : files = other := by
  cases files
  cases other
  congr 1
  exact Std.ExtTreeMap.ext_getElem? h

/-- Only the last node put at a location counts. -/
theorem put_put_self (files : FileTree) (location : Location) (first last : Node) :
    (files.put location first).put location last = files.put location last := by
  refine ext_node? fun l => ?_
  by_cases h : location = l <;> simp [h]

/-- Putting at different locations commutes. -/
theorem put_comm (files : FileTree) {l₁ l₂ : Location} (n₁ n₂ : Node) (h : l₁ ≠ l₂) :
    (files.put l₁ n₁).put l₂ n₂ = (files.put l₂ n₂).put l₁ n₁ := by
  refine ext_node? fun l => ?_
  by_cases h₁ : l₁ = l <;> by_cases h₂ : l₂ = l <;> simp_all

/-! ### Following paths -/

/-- Whether there is a directory at the location. The current directory always exists. -/
def isDirectory (files : FileTree) (location : Location) : Bool :=
  location.isEmpty || files.node? location == some .directory

/-- Where a path leads, if every directory on its way exists. -/
def locate? (files : FileTree) (path : String) : Option Location :=
  match Route.ofPath? path with
  | none => none
  | some route => if route.entered.all files.isDirectory then some route.target else none

/-- The content of the regular file a path leads to. -/
def read? (files : FileTree) (path : FilePath) : Option Bytes :=
  match files.locate? path.text with
  | none => none
  | some location =>
    match files.node? location with
    | some (.regular content) => some content
    | _ => none

/-- A path leads nowhere but to the location it denotes. -/
theorem ofPath?_of_locate? {files : FileTree} {path : String} {location : Location}
    (h : files.locate? path = some location) : Location.ofPath? path = some location := by
  unfold locate? at h
  unfold Location.ofPath?
  split at h
  · simp at h
  · rename_i route hroute
    split at h <;> simp_all

/-! ### Changing a regular file -/

/-- Stores `data` in the regular file at the location, `offset` bytes behind its beginning. -/
def storeAt (files : FileTree) (location : Location) (offset : Nat) (data : Bytes) : FileTree :=
  match files.node? location with
  | some (.regular content) => files.put location (.regular (overlay content offset data))
  | _ => files

/-- Storing at the end of a regular file appends to it. -/
theorem storeAt_length {files : FileTree} {location : Location} {content : Bytes}
    (h : files.node? location = some (.regular content)) (data : Bytes) :
    files.storeAt location content.length data =
      files.put location (.regular (content ++ data)) := by
  simp [storeAt, h, overlay_length]

/-- Storing nothing changes nothing. -/
@[simp] theorem storeAt_nil (files : FileTree) (location : Location) (offset : Nat) :
    files.storeAt location offset [] = files := by
  unfold storeAt
  split
  · rename_i content hnode
    refine ext_node? fun l => ?_
    by_cases h : location = l
    · simp [← h, hnode]
    · simp [h]
  · rfl

/-- Data can be stored piece by piece. -/
theorem storeAt_storeAt (files : FileTree) (location : Location) (offset : Nat)
    (first rest : Bytes) :
    (files.storeAt location offset first).storeAt location (offset + first.length) rest =
      files.storeAt location offset (first ++ rest) := by
  by_cases h : ∃ content, files.node? location = some (.regular content)
  · obtain ⟨content, hnode⟩ := h
    simp [storeAt, hnode, put_put_self, overlay_overlay]
  · have hstore (offset : Nat) (data : Bytes) : files.storeAt location offset data = files := by
      unfold storeAt
      split
      · exact absurd ⟨_, ‹_›⟩ h
      · rfl
    simp [hstore]

end FileTree

end ShaderDriver
