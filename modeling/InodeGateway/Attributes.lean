import InodeGateway.Identity
import InodeGateway.Object
import InodeGateway.World

/-!
# Attributes

What clients are told about an object: a description by the backend, with the owner as a user id and
with permission bits from a model.  The storage has neither groups nor links nor access times; the
members for them are fixed.

## Main definitions

* `Mode` — permission bits
* `Attributes` — what clients are told
* `Attributes.askUserId`, `Attributes.userIdOf` — the user id of an object's owner
* `Attributes.ofMetadata` — the attributes of an object
-/

namespace InodeGateway

namespace Mode

/-- The bit for reading by the owner. -/
def read : Nat := 0o400

/-- The bit for writing by the owner. -/
def write : Nat := 0o200

/-- The bit for execution by the owner. -/
def execute : Nat := 0o100

/-- The bits of the owner. -/
def user : Nat := read ||| write ||| execute

def greatest : Nat := 0o7777

def bit : Right → Nat
  | .read => read
  | .write => write
  | .execute => execute

def asks (mode : Num) (right : Right) : Bool := mode.low32 &&& bit right != 0

end Mode

/-- Which permission bits an object shows. -/
abbrev PermissionModel := Metadata → Num

namespace PermissionModel

def fixedName : String := "fixed"

/-- The bits that every object shows in the fixed model. -/
def fixedMode : Nat := Mode.read ||| Mode.write

/-- Every object shows the same bits, whatever the backend would grant. -/
def fixed : PermissionModel := fun _ => Num.ofNat fixedMode

/-- The bits depend on the kind alone. -/
def byKind (file directory : Num) : PermissionModel := fun m =>
  match m.kind with
  | .file => file
  | .directory => directory

end PermissionModel

/-- What clients are told about an object. -/
structure Attributes where
  /-- The handle that stands for the object. -/
  inode : Handle
  kind : Kind
  mode : Num
  userId : Nat
  size : Num
  createdAt : Instant
  modifiedAt : Instant
  deriving DecidableEq, Repr

namespace Attributes

/-- The number of links; links are not counted. -/
def links : Nat := 0

/-- The group of every object; there are no groups. -/
def groupId : Nat := 0

/-- The device that every object shows. -/
def device : Nat := 17

/-- The file id is the handle. -/
def fileId (a : Attributes) : Handle := a.inode

/-- No time of access is kept; the time of the last change stands for it. -/
def accessedAt (a : Attributes) : Instant := a.modifiedAt

/-- The generation is the time of the last change. -/
def generation (a : Attributes) : Num := a.modifiedAt.toNum

/-- Asks for the user id of an object's owner. -/
def askUserId {σ : Type} (identities : Identity.Registry σ) (m : Metadata) : Act σ Nat := do
  let owner := Identity.owner m.ownerName m.ownerZone
  let text ← (Act.call (identities.resolve owner)).explain
    fun failure => (Refusal.identityLookup owner).because failure
  match text with
  | none => Call.fail (Refusal.noIdentity owner)
  | some text => Act.check (Identity.userId owner text)

/-- The user id of an object's owner in a directory. -/
def userIdOf (identities : Identity.Directory) (m : Metadata) : Except Failure Nat :=
  ((askUserId identities m).answer ({ backend := () } : World Unit)).1

def madeMessage : String := "translated attributes"

/-- The attributes of an object under a handle. -/
def ofMetadata {σ : Type} (identities : Identity.Registry σ) (permissions : PermissionModel)
    (h : Handle) (m : Metadata) : Act σ Attributes := do
  let userId ← askUserId identities m
  Act.note .trace madeMessage [("path", m.path), ("handle", h.toText)]
  return {
    inode := h, kind := m.kind, mode := permissions m, userId := userId, size := m.sizeBytes,
    createdAt := m.createdAt, modifiedAt := m.modifiedAt }

end Attributes

end InodeGateway
