import InodeGateway.Gateway
import InodeGateway.Gateway.Creation

/-!
# The operations of the gateway

What clients can ask for.  Reading and changing content, links, removal and renaming are not
offered: such requests are refused once their handles are known to stand for something.

## Main definitions

* `DirectoryEntry`, `Statistics` — what is answered
* `Gateway.getAttributes`, `Gateway.checkAccess`, `Gateway.create`, `Gateway.list`,
  `Gateway.lookup`, `Gateway.parentOf`, `Gateway.statistics`, `Gateway.commit` — the operations
* `Gateway.decline` — those that are not offered
-/

namespace InodeGateway

structure DirectoryEntry where
  name : String
  handle : Handle
  attributes : Attributes
  deriving DecidableEq, Repr

/-- The space of the backend, and the objects that have handles. -/
structure Statistics where
  totalBytes : Num
  freeBytes : Num
  usedFiles : Nat
  deriving DecidableEq, Repr

namespace Statistics

/-- The space in use, never below zero. -/
def usedBytes (s : Statistics) : Num := Num.max 0 (s.totalBytes.sub s.freeBytes)

/-- The number of objects that there may be: as many as can be counted exactly. -/
def totalFiles : Nat := Num.exactLimit - 1

end Statistics

namespace Gateway

variable {σ : Type}

def handleField (h : Handle) : String × Journal.Field := ("handle", h.toText)

/-- The attributes of the object that a handle stands for. -/
def getAttributes (g : Gateway σ) (h : Handle) : Act σ Attributes :=
  run .getAttributes [handleField h] do
    let p ← resolve h
    Act.withSession g.backend fun s => do
      let m ← Act.call (g.backend.stat s p.toText)
      Attributes.ofMetadata g.identities g.permissions h m

/-- The bits of a mask that the backend grants to the owner.  Whatever keeps the backend from
answering, the check has failed. -/
def checkAccess (g : Gateway σ) (h : Handle) (mask : Num) : Act σ Nat :=
  run .checkAccess [handleField h, ("mask", mask)] do
    Act.check (Mode.check .mask mask)
    let p ← resolve h
    let user := Num.ofNat (mask.low32 &&& Mode.user)
    (Act.withSession g.backend fun s => Access.probe g.backend s p.toText user).explain
      fun failure => (Refusal.accessCheck p.toText).because failure

/-- Owner and mode of a new object are noted, for the backend has no place for them. -/
def noteOwnership (p : Path) (owner : Principal) (mode : Num) : Act σ Unit :=
  Act.note .debug "ownership and mode not applied"
    [("path", p.toText), ("uid", owner.userId), ("gid", owner.groupId), ("mode", mode)]

/-- Makes an object in a directory and gives it a handle. -/
def create (g : Gateway σ) (parent : Handle) (name kind : String) (owner : Principal)
    (mode : Num) : Act σ Handle :=
  run .create [("parent", parent.toText), ("name", name), ("kind", kind)] do
    let wanted ← Act.check (Creation.check parent name kind owner mode)
    let child := (← Act.look fun t => t.pathOf parent).child wanted.name
    Act.note .debug "creating object" [("path", child.toText), ("kind", wanted.kind.text)]
    Act.withSession g.backend fun s => Act.call (g.backend.create s child.toText wanted.kind)
    let h ← sightPath child
    noteOwnership child owner mode
    Act.note .info "created object"
      [("path", child.toText), ("handle", h.toText), ("kind", wanted.kind.text)]
    return h

/-- The description of a child, unless it is gone by now. -/
def statOptional (g : Gateway σ) (s : Session) (child : String) : Act σ (Option Metadata) :=
  Act.orMissing none (some <$> Act.call (g.backend.stat s child))

/-- The entries of children that the backend told of.  One that is gone is left out. -/
def entries (g : Gateway σ) (s : Session) : List String → Act σ (List DirectoryEntry)
  | [] => pure []
  | child :: rest => do
    match ← g.statOptional s child with
    | none =>
      Act.note .debug "child vanished during listing" [("path", child)]
      g.entries s rest
    | some m =>
      let h ← sight child
      let name ← Act.check (Spelling.name child)
      let attributes ← Attributes.ofMetadata g.identities g.permissions h m
      return ⟨name, h, attributes⟩ :: (← g.entries s rest)

/-- The entries of a directory, in the order of the backend. -/
def list (g : Gateway σ) (h : Handle) : Act σ (List DirectoryEntry) :=
  run .list [handleField h] do
    let p ← resolve h
    Act.withSession g.backend fun s => do
      let children ← Act.call (g.backend.list s p.toText)
      g.entries s children

/-- The handle of a name in a directory.  The names for the directory itself and for the one above
need no backend; any other object must exist. -/
def lookup (g : Gateway σ) (parent : Handle) (name : String) : Act σ Handle :=
  run .lookup [("parent", parent.toText), ("name", name)] do
    let p ← resolve parent
    if name = "." then return parent
    else if name = ".." then g.parentHandle p
    else
      let child := p.child (← Act.check (Name.ofText name))
      let _ ← Act.withSession g.backend fun s => Act.call (g.backend.stat s child.toText)
      sightPath child

/-- The handle of the directory above. -/
def parentOf (g : Gateway σ) (h : Handle) : Act σ Handle :=
  run .parentOf [handleField h] do
    g.parentHandle (← resolve h)

/-- The space of the backend; one that does not tell it has none. -/
def space (g : Gateway σ) (s : Session) : Act σ Capacity :=
  match g.backend.capacity with
  | some capacity => Act.call (capacity s)
  | none => pure ⟨0, 0⟩

/-- The space of the backend, and the number of objects that have handles. -/
def statistics (g : Gateway σ) : Act σ Statistics :=
  run .statistics [] do
    let space ← Act.withSession g.backend g.space
    let usedFiles ← Act.look fun t => .ok t.size
    return ⟨space.totalBytes, space.freeBytes, usedFiles⟩

/-- Nothing waits to be written, so that committing only looks at the handle. -/
def commit (_g : Gateway σ) (h : Handle) : Act σ Unit :=
  run .commit [handleField h] do
    let _ ← resolve h

/-- Looks at handles one after another. -/
def resolveAll : List Handle → Act σ Unit
  | [] => pure ()
  | h :: rest => do
    let _ ← resolve h
    resolveAll rest

/-- Refuses an operation that is not offered, once its handles are known to stand for something. -/
def decline (_g : Gateway σ) (operation : Operation) (handles : List Handle) : Act σ Unit :=
  run operation [("handles", Json.arr (handles.map fun h => .str h.toText))] do
    resolveAll handles
    Call.fail (Refusal.unsupportedOperation operation.text)

end Gateway

end InodeGateway
