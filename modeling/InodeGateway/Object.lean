import InodeGateway.Instant

/-!
# Objects of a storage backend

What a backend tells about the objects that it keeps.

## Main definitions

* `Kind` — file or directory
* `Right` — reading, writing, executing
* `Metadata` — the description of an object
* `Capacity` — the space of a backend
-/

namespace InodeGateway

inductive Kind where
  | file
  | directory
  deriving DecidableEq, Repr, Inhabited

def Kind.text : Kind → String
  | .file => "file"
  | .directory => "directory"

/-- The kind that a word names. -/
def Kind.ofText? (s : String) : Option Kind :=
  if s = "file" then some .file
  else if s = "directory" then some .directory
  else none

/-- What a backend may permit on an object. -/
inductive Right where
  | read
  | write
  | execute
  deriving DecidableEq, Repr, Inhabited

structure Metadata where
  /-- The path under which the backend knows it. -/
  path : String
  kind : Kind
  sizeBytes : Num
  ownerName : String
  ownerZone : String
  createdAt : Instant
  modifiedAt : Instant
  deriving DecidableEq, Repr

/-- The space of a backend. -/
structure Capacity where
  totalBytes : Num
  freeBytes : Num
  deriving DecidableEq, Repr

end InodeGateway
