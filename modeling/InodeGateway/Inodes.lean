import InodeGateway.Handle
import InodeGateway.OrderedMap
import InodeGateway.Path

/-!
# The table of inodes

Which handle stands for which path.  The table is kept in both directions; a registration writes
one direction first and takes its entry back when the other direction turns out to be occupied.
Fresh handles are drawn from a counter, and the handle of the root is handed out once.

## Main definitions

* `Inodes` — both directions of the table, and the counter
* `Inodes.register` — writes a pair of handle and path
* `Inodes.pathOf`, `Inodes.handleOf` — the two look-ups
* `Inodes.sight` — the handle of a path, drawn and registered on first sight
-/

namespace InodeGateway

/-- Handles and paths in both directions, and the counter of handles. -/
structure Inodes where
  /-- The path of each handle, in order of registration. -/
  paths : OrderedMap Handle Path := {}
  handles : OrderedMap Path Handle := {}
  /-- The handle drawn last; the root counts as drawn. -/
  last : Handle := Handle.root
  /-- Whether the handle of the root was handed out. -/
  rootReserved : Bool := false
  deriving Repr

namespace Inodes

instance : Inhabited Inodes := ⟨{}⟩

/-- The number of registered handles. -/
def size (t : Inodes) : Nat := t.paths.size

/-- The registered pairs, oldest first. -/
def entries (t : Inodes) : List (Handle × Path) := t.paths.entries

def draw (t : Inodes) : Handle × Inodes := (t.last + 1, { t with last := t.last + 1 })

/-- Hands out the handle of the root, once. -/
def reserveRoot (t : Inodes) : Except Refusal Handle × Inodes :=
  if t.rootReserved then (.error .rootReserved, t)
  else (.ok Handle.root, { t with rootReserved := true })

/-- Takes the entry of a handle back, which must still hold the path. -/
def undo (t : Inodes) (h : Handle) (p : Path) : Except Refusal Unit × Inodes :=
  if t.paths.get? h = some p then (.ok (), { t with paths := t.paths.erase h })
  else (.error (.undoFailed h p.toText), t)

/-- Writes a pair of a positive handle and a path into both directions.  The direction from handle
to path is written first; if the path has a handle already, that entry is taken back. -/
def registerPath (t : Inodes) (h : Handle) (p : Path) : Except Refusal Unit × Inodes :=
  if h ≤ 0 then (.error (.handleNotPositive h), t)
  else
    match t.paths.get? h with
    | some old => (.error (.handleMapped h old.toText), t)
    | none =>
      let written := { t with paths := t.paths.insert h p }
      match written.handles.get? p with
      | none => (.ok (), { written with handles := written.handles.insert p h })
      | some other =>
        match written.undo h p with
        | (.ok (), undone) => (.error (.pathMapped other p.toText), undone)
        | (.error refusal, kept) => (.error refusal, kept)

/-- Writes a pair of a handle and the path that a text spells.  The handle is looked at before the
text. -/
def register (t : Inodes) (h : Handle) (text : String) : Except Refusal Unit × Inodes :=
  match Path.ofText text with
  | .ok p => t.registerPath h p
  | .error refusal => (.error (if h ≤ 0 then .handleNotPositive h else refusal), t)

def pathOf (t : Inodes) (h : Handle) : Except Refusal Path :=
  match t.paths.get? h with
  | some p => .ok p
  | none => .error (.unknownHandle h)

/-- The handle of the path that a text spells, if it has one. -/
def handleOf (t : Inodes) (text : String) : Except Refusal (Option Handle) := do
  return t.handles.get? (← Path.ofText text)

/-- The handle of a path.  A path without one gets the next handle of the counter. -/
def sightPath (t : Inodes) (p : Path) : Except Refusal Handle × Inodes :=
  match t.handles.get? p with
  | some h => (.ok h, t)
  | none =>
    let (h, drawn) := t.draw
    match drawn.registerPath h p with
    | (.ok (), registered) => (.ok h, registered)
    | (.error refusal, kept) => (.error refusal, kept)

/-- The handle of the path that a text spells. -/
def sight (t : Inodes) (text : String) : Except Refusal Handle × Inodes :=
  match Path.ofText text with
  | .error refusal => (.error refusal, t)
  | .ok p => t.sightPath p

/-- Hands out the handle of the root and registers it for a path. -/
def mountRoot (t : Inodes) (p : Path) : Except Refusal Unit × Inodes :=
  match t.reserveRoot with
  | (.error refusal, kept) => (.error refusal, kept)
  | (.ok h, reserved) => reserved.registerPath h p

end Inodes

end InodeGateway
