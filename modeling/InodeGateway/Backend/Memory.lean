import InodeGateway.Backend.Sessions
import InodeGateway.OrderedMap
import InodeGateway.Path

/-!
# A tree of objects in memory

A backend that keeps its objects in memory.  Each node knows its children in the order in which they
came; permissions that differ from full access and failures that are wanted at a path stand beside
the tree.

## Main definitions

* `Memory` — the tree, the permissions, the wanted failures, the clock and the sessions
* `Memory.insert` — writes a node and links it into its parent
* `Memory.makeDirectories` — fills the gap between a path and its nearest existing ancestor
* `Memory.seed`, `Memory.setPermissions`, `Memory.failOn` — changes made past the sessions
* `Memory.node?`, `Memory.createNode`, `Memory.space` — what the sessions do
-/

namespace InodeGateway

/-- One object of the tree. -/
structure Node where
  kind : Kind
  sizeBytes : Num
  ownerName : String
  ownerZone : String
  createdAt : Instant
  modifiedAt : Instant
  /-- The children, oldest first. -/
  children : List Path
  deriving DecidableEq, Repr

/-- The rights that are granted at a path. -/
structure Permissions where
  read : Bool := true
  write : Bool := true
  execute : Bool := true
  deriving DecidableEq, Repr

/-- Whether a right is among the granted ones. -/
def Permissions.grants (p : Permissions) : Right → Bool
  | .read => p.read
  | .write => p.write
  | .execute => p.execute

/-- New values for some of the rights at a path. -/
structure Permissions.Change where
  read : Option Bool := none
  write : Option Bool := none
  execute : Option Bool := none
  deriving DecidableEq, Repr

/-- The rights after a change. -/
def Permissions.change (p : Permissions) (c : Permissions.Change) : Permissions where
  read := c.read.getD p.read
  write := c.write.getD p.write
  execute := c.execute.getD p.execute

/-- Name and zone of an owner. -/
structure Owner where
  name : String
  zone : String
  deriving DecidableEq, Repr

structure Memory where
  /-- The owner of objects that are not given another one. -/
  owner : Owner
  capacityBytes : Num
  now : Instant
  nodes : OrderedMap Path Node := {}
  overrides : OrderedMap Path Permissions := {}
  failures : OrderedMap Path Reason := {}
  failsReleases : Bool := false
  sessions : Sessions := {}
  deriving Repr

namespace Memory

/-- Links a node into its parent: at the end of the children, unless it is there already. -/
def link (now : Instant) (p : Path) (parent : Node) : Node :=
  if p ∈ parent.children then parent
  else { parent with children := parent.children ++ [p], modifiedAt := now }

/-- Writes a node without children and links it into its parent, if there is one. -/
def insert (m : Memory) (p : Path) (kind : Kind) (size : Num) (owner : Owner) : Memory :=
  let written := m.nodes.insert p
    { kind := kind, sizeBytes := size, ownerName := owner.name, ownerZone := owner.zone,
      createdAt := m.now, modifiedAt := m.now, children := [] }
  match p.parent? with
  | none => { m with nodes := written }
  | some q => { m with nodes := written.modify q (link m.now p) }

/-- Makes the directory at a path and those ancestors that are missing.  A node that exists ends
the search, whatever its kind. -/
def makeDirectories (m : Memory) (p : Path) : Memory :=
  if m.nodes.contains p then m
  else
    match _ : p.parent? with
    | none => m.insert p .directory 0 m.owner
    | some q => (m.makeDirectories q).insert p .directory 0 m.owner
termination_by p.depth
decreasing_by simp [Path.depth_of_parent? ‹_›]

/-- The space of a backend that is not told another one. -/
def usualCapacity : Nat := 1024 * 1024 * 1024

/-- A tree with the root alone. -/
def empty (owner : Owner) (capacityBytes : Num) (now : Instant) : Memory :=
  ({ owner := owner, capacityBytes := capacityBytes, now := now } : Memory).insert
    .root .directory 0 owner

/-- Makes the directories that texts spell, one after another. -/
def addDirectories (m : Memory) : List String → Except Failure Memory
  | [] => .ok m
  | text :: rest =>
    match Path.ofText text with
    | .ok p => (m.makeDirectories p).addDirectories rest
    | .error refusal => .error refusal

/-- Places an object, as another client of the storage would.  An object that stands at the path is
replaced, and its children are forgotten. -/
def seedPath (m : Memory) (p : Path) (kind : Kind) (size : Num) (owner : Option Owner) : Memory :=
  let base := match p.parent? with
    | none => m
    | some q => m.makeDirectories q
  base.insert p kind (if kind = .file then size else 0) (owner.getD m.owner)

/-- Places an object at the path that a text spells. -/
def seed (text : String) (kind : Kind) (size : Num) (owner : Option Owner) : Call Memory Unit :=
  .of fun m =>
    match Path.ofText text with
    | .ok p => (.ok (), m.seedPath p kind size owner)
    | .error refusal => (.error refusal, m)

def checkFailure (m : Memory) (p : Path) : Except Failure Unit :=
  match m.failures.get? p with
  | some reason =>
    .error (.backend reason ("Injected " ++ reason.text ++ " failure") (some p.toText))
  | none => .ok ()

/-- The rights at a path; they are full unless others were set.  The path need not have a node. -/
def permissionsAt (m : Memory) (p : Path) : Except Failure Permissions := do
  m.checkFailure p
  return (m.overrides.get? p).getD {}

def node? (m : Memory) (p : Path) : Except Failure Node := do
  m.checkFailure p
  match m.nodes.get? p with
  | some node => .ok node
  | none => .error (.backend .notFound "Object not found" (some p.toText))

/-- Sets some of the rights at the path that a text spells. -/
def setPermissions (text : String) (change : Permissions.Change) : Call Memory Unit :=
  .of fun m =>
    match Path.ofText text with
    | .error refusal => (.error refusal, m)
    | .ok p =>
      match m.permissionsAt p with
      | .error failure => (.error failure, m)
      | .ok permissions =>
        (.ok (), { m with overrides := m.overrides.insert p (permissions.change change) })

/-- Wants every later call at the path that a text spells to fail. -/
def failOn (text : String) (reason : Reason) : Call Memory Unit :=
  .of fun m =>
    match Path.ofText text with
    | .error refusal => (.error refusal, m)
    | .ok p => (.ok (), { m with failures := m.failures.insert p reason })

/-- Wants no more failures. -/
def clearFailures (m : Memory) : Memory := { m with failures := {} }

/-- The description of the object at a path. -/
def describe (m : Memory) (p : Path) : Except Failure Metadata := do
  let node ← m.node? p
  return {
    path := p.toText, kind := node.kind, sizeBytes := node.sizeBytes,
    ownerName := node.ownerName, ownerZone := node.ownerZone,
    createdAt := node.createdAt, modifiedAt := node.modifiedAt }

/-- What speaks against making an object at a path; the first fault counts. -/
def admits (m : Memory) (p : Path) : Except Failure Unit := do
  m.checkFailure p
  let taken := Failure.backend .alreadyExists "Object already exists" (some p.toText)
  if m.nodes.contains p then throw taken
  match p.parent? with
  | none => throw taken
  | some q =>
    let parent ← m.node? q
    if parent.kind ≠ .directory then
      throw (.backend .io "Parent is not a collection" (some q.toText))
    if !(← m.permissionsAt q).write then
      throw (.backend .permissionDenied "No write permission on collection" (some q.toText))

/-- Makes an empty object at a path, if nothing speaks against it. -/
def createNode (m : Memory) (p : Path) (kind : Kind) : Except Failure Unit × Memory :=
  match m.admits p with
  | .ok () => (.ok (), m.insert p kind 0 m.owner)
  | .error failure => (.error failure, m)

/-- The written paths of the children of a directory. -/
def children (m : Memory) (text : String) : Except Failure (List String) := do
  let p ← (Path.ofText text).mapError Refusal.failure
  let node ← m.node? p
  if node.kind ≠ .directory then throw (.backend .io "Not a collection" (some text))
  return node.children.map Path.toText

/-- The sum of the sizes of all objects. -/
def usedBytes (m : Memory) : Num :=
  m.nodes.values.foldl (fun used node => used.add node.sizeBytes) 0

/-- The space of the backend; what is free is never below zero. -/
def space (m : Memory) : Capacity :=
  ⟨m.capacityBytes, Num.max 0 (m.capacityBytes.sub m.usedBytes)⟩

/-- A call of a session: it fails once the session is released. -/
def within {α : Type} (s : Session) (f : Memory → Except Failure α × Memory) : Call Memory α :=
  .of fun m =>
    match m.sessions.ensureOpen s none with
    | .ok () => f m
    | .error failure => (.error failure, m)

/-- A call of a session about the path that a text spells. -/
def withinAt {α : Type} (s : Session) (text : String) (f : Memory → Path → Except Failure α) :
    Call Memory α :=
  within s fun m =>
    match Path.ofText text with
    | .ok p => (f m p, m)
    | .error refusal => (.error refusal, m)

def openSession : Call Memory Session := .of fun m =>
  let (s, sessions) := m.sessions.acquire
  (.ok s, { m with sessions := sessions })

/-- Releases a session.  A second release does nothing; the first one may be wanted to fail, but
counts all the same. -/
def release (s : Session) : Call Memory Unit := .of fun m =>
  if m.sessions.isReleased s then (.ok (), m)
  else
    let after := { m with sessions := m.sessions.release s }
    if m.failsReleases then (.error (.backend .io "Session close failed" none), after)
    else (.ok (), after)

/-- The space of the backend, told to a session. -/
def spaceOf (s : Session) : Call Memory Capacity := within s fun m => (.ok m.space, m)

def backend : Backend Memory where
  kind := "memory"
  openSession := openSession
  stat s text := withinAt s text describe
  permits s right text := withinAt s text fun m p => do return (← m.permissionsAt p).grants right
  create s text kind := within s fun m =>
    match Path.ofText text with
    | .ok p => m.createNode p kind
    | .error refusal => (.error refusal, m)
  list s text := within s fun m => (m.children text, m)
  capacity := some spaceOf
  release := release

end Memory

end InodeGateway
