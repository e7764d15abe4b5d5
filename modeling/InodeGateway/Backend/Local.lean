import InodeGateway.Backend.Sessions
import InodeGateway.Disk.Report
import InodeGateway.Path

/-!
# A directory of the local disk

A backend that serves a directory of the disk as if it were all there is: the backend's root is that
directory, and owners are reported by user id within one zone.

## Main definitions

* `Local` — the directory, the zone, the disk and the sessions
* `Local.absolute` — the place that a written directory names
* `Local.resolve` — the place on the disk of a backend path
* `Local.backend` — the calls
-/

namespace InodeGateway

/-- The reason that an error of the disk gives. -/
def Errno.reason : Errno → Reason
  | .noEntry => .notFound
  | .exists => .alreadyExists
  | .accessDenied | .notPermitted => .permissionDenied
  | _ => .io

/-- A directory of the local disk as a backend. -/
structure Local where
  root : Disk.Place
  zone : String
  disk : Disk
  sessions : Sessions := {}
  deriving Repr

namespace Local

/-- The place after one more component: the references to directories are resolved by name alone. -/
def step (p : Disk.Place) (component : String) : Disk.Place :=
  if component = "" ∨ component = "." then p
  else if component = ".." then p.dropLast
  else p ++ [component]

/-- The place that a written directory names, seen from the working directory. -/
def absolute (working : Disk.Place) (directory : String) : Disk.Place :=
  (Disk.components directory).foldl step (if Disk.isAbsolute directory then [] else working)

def placeText (root : Disk.Place) (p : Path) : String :=
  Disk.Place.toText (root ++ p.names.map Name.text)

/-- The place of the backend path that a text spells.  The written form of the place has to begin
with that of the root and a separator. -/
def resolve (root : Disk.Place) (text : String) : Except Failure Disk.Place := do
  let p ← (Path.ofText text).mapError Refusal.failure
  let written := placeText root p
  if written ≠ root.toText ∧ ¬ (root.toText ++ "/").toList.isPrefixOf written.toList then
    throw (.backend .permissionDenied "Resolved path escapes backend root" (some text))
  return root ++ p.names.map Name.text

/-- An error of the disk as the backend reports it. -/
def report (text : String) (e : Errno) : Failure :=
  .because (.backend e.reason e.message (some text)) e.failure

def reportOther (text : String) (f : Failure) : Failure :=
  .because (.backend .io f.message (some text)) f

/-- A call of a session about the path that a text spells: the session must not be released, the
path must resolve to a place that the disk can be asked for, and an error of the disk is
reported. -/
def within {α : Type} (s : Session) (text : String)
    (f : Local → Disk.Place → Except Errno (α × Disk)) : Call Local α := .of fun l =>
  match l.sessions.ensureOpen s (some text) with
  | .error failure => (.error failure, l)
  | .ok () =>
    match resolve l.root text with
    | .error failure => (.error failure, l)
    | .ok place =>
      match Disk.nulFailure? "path" place.toText with
      | some failure => (.error (reportOther text failure), l)
      | none =>
        match f l place with
        | .error e => (.error (report text e), l)
        | .ok (a, disk) => (.ok a, { l with disk := disk })

/-- A call of a session that leaves the disk as it is. -/
def reading {α : Type} (s : Session) (text : String)
    (f : Local → Disk.Place → Except Errno α) : Call Local α :=
  within s text fun l place => do return (← f l place, l.disk)

/-- The kind of an object: what is no directory counts as a file. -/
def kindOf (e : Disk.Entry) : Kind :=
  match e.content with
  | .directory => .directory
  | _ => .file

/-- The size of an object; directories have none. -/
def sizeOf (e : Disk.Entry) : Num :=
  match e.content with
  | .file size => Num.ofNat size
  | _ => 0

/-- The moment at which an object was made.  Where that is not kept, its last change stands for
it. -/
def creationTime (e : Disk.Entry) : Instant :=
  match e.bornAt with
  | .at ms => if 0 < ms then e.bornAt else e.changedAt
  | .invalid => e.changedAt

/-- The description of the object at a place. -/
def describe (l : Local) (text : String) (place : Disk.Place) : Except Errno Metadata := do
  let entry ← l.disk.stat place
  return {
    path := ((Path.ofText text).toOption.getD .root).toText
    kind := kindOf entry
    sizeBytes := sizeOf entry
    ownerName := toString entry.owner
    ownerZone := l.zone
    createdAt := creationTime entry
    modifiedAt := entry.modifiedAt }

/-- Whether the user has a right at a place.  What must not even be looked at is not permitted. -/
def permits (l : Local) (right : Right) (place : Disk.Place) : Except Errno Bool :=
  match l.disk.access right place with
  | .ok () => .ok true
  | .error .accessDenied | .error .notPermitted => .ok false
  | .error e => .error e

/-- Makes an empty object at a place. -/
def make (l : Local) (kind : Kind) (place : Disk.Place) : Except Errno (Unit × Disk) := do
  match kind with
  | .directory => return ((), ← l.disk.makeDirectory place)
  | .file => return ((), ← l.disk.makeFile place)

/-- The written paths of the children of a directory. -/
def children (l : Local) (text : String) (place : Disk.Place) : Except Errno (List String) := do
  let parent := (Path.ofText text).toOption.getD .root
  return (← l.disk.names place).filterMap fun name =>
    (Name.ofText name).toOption.map fun n => (parent.child n).toText

/-- The space that the file system tells of at a place, where something has to stand. -/
def space (l : Local) (place : Disk.Place) : Except Errno Capacity := do
  let _ ← l.disk.stat place
  return l.disk.space

def openSession : Call Local Session := .of fun l =>
  let (s, sessions) := l.sessions.acquire
  (.ok s, { l with sessions := sessions })

/-- Releases a session; a second release does nothing. -/
def release (s : Session) : Call Local Unit := .of fun l =>
  if l.sessions.isReleased s then (.ok (), l)
  else (.ok (), { l with sessions := l.sessions.release s })

/-- The space of the disk, told to a session. -/
def spaceOf (s : Session) : Call Local Capacity := reading s "/" fun l place => l.space place

def backend : Backend Local where
  kind := "local"
  openSession := openSession
  stat s text := reading s text fun l place => l.describe text place
  permits s right text := reading s text fun l place => l.permits right place
  create s text kind := within s text fun l place => l.make kind place
  list s text := reading s text fun l place => l.children text place
  capacity := some spaceOf
  release := release

end Local

end InodeGateway
