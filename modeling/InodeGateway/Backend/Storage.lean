import InodeGateway.Backend.Local
import InodeGateway.Backend.Memory
import InodeGateway.Identity
import InodeGateway.Settings

/-!
# The backends that a service can use

Either of the two backends under one type, and the choice that settings make between them.

## Main definitions

* `Storage` — a backend in memory or on the disk
* `Storage.backend` — its calls
* `Settings.storage`, `Settings.directory` — the backend and the identities that settings choose
-/

namespace InodeGateway

/-- A backend in memory or on the disk. -/
inductive Storage where
  | memory (m : Memory)
  | disk (l : Local)
  deriving Repr

namespace Storage

variable {α : Type}

def dispatch (inMemory : Call Memory α) (onDisk : Call Local α) : Call Storage α := .of fun
  | .memory m =>
    let (r, m) := inMemory.answer m
    (r, .memory m)
  | .disk l =>
    let (r, l) := onDisk.answer l
    (r, .disk l)

def kind : Storage → String
  | .memory _ => Memory.backend.kind
  | .disk _ => Local.backend.kind

def sessions : Storage → Sessions
  | .memory m => m.sessions
  | .disk l => l.sessions

/-- The calls of a backend of a given kind. -/
def backend (kind : String) : Backend Storage where
  kind := kind
  openSession := dispatch Memory.openSession Local.openSession
  stat s path := dispatch (Memory.backend.stat s path) (Local.backend.stat s path)
  permits s right path :=
    dispatch (Memory.backend.permits s right path) (Local.backend.permits s right path)
  create s path kind :=
    dispatch (Memory.backend.create s path kind) (Local.backend.create s path kind)
  list s path := dispatch (Memory.backend.list s path) (Local.backend.list s path)
  capacity := some fun s => dispatch (Memory.spaceOf s) (Local.spaceOf s)
  release s := dispatch (Memory.release s) (Local.release s)

end Storage

/-- The machine on which a service runs. -/
structure Machine where
  disk : Disk
  /-- The directory from which relative paths are read. -/
  working : Disk.Place
  /-- The moment at which the service starts. -/
  now : Instant
  deriving Repr

namespace Settings

/-- The backend that settings choose.  One in memory begins with the exported root. -/
def storage (s : Settings) (machine : Machine) : Except Failure Storage :=
  match s.backend with
  | .memory => do
    let empty := Memory.empty ⟨s.defaultOwner, s.zone⟩ (.ofNat Memory.usualCapacity) machine.now
    return .memory (← empty.addDirectories [s.rootPath])
  | .local directory =>
    .ok (.disk
      { root := Local.absolute machine.working directory, zone := s.zone, disk := machine.disk })
  | .other written => .error (.unhandled written)

def directory (s : Settings) : Except Failure Identity.Directory :=
  match s.identityMode with
  | .static => .ok (Identity.static s.identities)
  | .passthrough => .ok Identity.passthrough
  | .other written => .error (.unhandled written)

end Settings

end InodeGateway
