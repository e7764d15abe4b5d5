import InodeGateway.Access
import InodeGateway.Path.Spelling

/-!
# The gateway

A view of a backend in which objects have handles.  Every operation finds the paths of its handles
in the table of inodes before the backend is touched, and calls the backend within a session of its
own.  How an operation ends is told to the observer, and a failure is put into the gateway's terms
and written into the journal once.

## Main definitions

* `Gateway` — a backend, its identities, the permission model and the root
* `Gateway.restate` — a failure in the gateway's terms
* `Gateway.run` — an operation, observed and with its failure noted
* `Gateway.resolve`, `Gateway.sight`, `Gateway.parentHandle` — handles and paths
* `Gateway.establish` — the gateway for a root that can be read
-/

namespace InodeGateway

open Journal

/-- The class of failure for a reason of the backend. -/
def Reason.code : Reason → Code
  | .notFound => .notFound
  | .alreadyExists => .alreadyExists
  | .permissionDenied => .permissionDenied
  | .io => .ioFailure

/-- A view of a backend in which objects have handles. -/
structure Gateway (σ : Type) where
  backend : Backend σ
  identities : Identity.Registry σ
  permissions : PermissionModel
  /-- The path that the root handle stands for. -/
  rootPath : Path

namespace Gateway

variable {σ α : Type}

/-- The labels that every record of the gateway carries. -/
def labels (backendKind : String) : List (String × String) :=
  [("component", "vfs"), ("backend", backendKind)]

/-- The details of an error of the backend: its path, if it has one. -/
def pathDetails : Option String → Option (List (String × Json))
  | some path => if path.isEmpty then none else some [("path", path)]
  | none => none

/-- A failure in the gateway's terms.  One that is so already stays; an error of the backend gets
the class of its reason; anything else is a failure of the storage.  The cause is kept. -/
def restate (f : Failure) : Failure :=
  match f.fault with
  | .gateway _ _ _ => f
  | .backend reason message path => .because (.gateway reason.code message (pathDetails path)) f
  | fault => .because (.gateway .ioFailure ("Backend failure: " ++ fault.message) none) f

/-- The record of a failed operation: grave if the table of inodes is broken, an error if the
storage failed, and a detail otherwise. -/
def closingRecord (operation : Operation) (context : Fields) (failure : Failure) : Record :=
  let fields : Fields := ("operation", operation.text) :: context
  match failure.codeOf with
  | .internalInconsistency =>
    ⟨.fatal, "inode table consistency violated", ("err", failure) :: fields⟩
  | .ioFailure => ⟨.error, "backend operation failed", ("err", failure) :: fields⟩
  | code => ⟨.debug, failure.message, ("code", code.text) :: fields⟩

/-- An operation: its failure is restated, its outcome told to the observer, and its failure
noted. -/
def run (operation : Operation) (context : Fields) (body : Act σ α) : Act σ α := .of fun w =>
  match body.answer w with
  | (.ok a, after) => (.ok a, after.observe operation .ok)
  | (.error failure, after) =>
    let reported := restate failure
    let record := closingRecord operation context reported
    (.error reported,
      (after.observe operation (.failed reported.codeOf)).note
        record.level record.message record.fields)

def pathFor (t : Inodes) (h : Handle) : Except Refusal Path :=
  if h ≤ 0 then .error (.handleNotPositive h) else t.pathOf h

def resolve (h : Handle) : Act σ Path := Act.look fun t => pathFor t h

/-- The message about a fresh handle that is occupied. -/
def collisionMessage : String := "Inode table collision on a fresh handle"

/-- A handle or path that is occupied although it is fresh means that the table is broken. -/
def collision (f : Failure) : Failure :=
  if f.hasCode (some .alreadyMapped) then
    .because (.gateway .internalInconsistency collisionMessage f.details?) f
  else f

/-- The handle of a path that the backend just told of, fresh on first sight. -/
def sightPath (p : Path) : Act σ Handle := (Act.table fun t => t.sightPath p).explain collision

/-- The handle of the path that a text from the backend spells. -/
def sight (text : String) : Act σ Handle := (Act.table fun t => t.sight text).explain collision

/-- The handle of the path above; above the root, and outside of it, that is the root's own. -/
def parentHandle (g : Gateway σ) (p : Path) : Act σ Handle :=
  if p = g.rootPath then pure Handle.root
  else
    match p.parent? with
    | none => pure Handle.root
    | some q => if g.rootPath.contains q then sightPath q else pure Handle.root

/-- Whether the root exists and can be read. -/
def rootReadable (g : Gateway σ) (s : Session) : Act σ Bool :=
  let look : Act σ Bool := do
    let _ ← Act.call (g.backend.stat s g.rootPath.toText)
    Act.call (g.backend.permits s .read g.rootPath.toText)
  (Act.orMissing false look).explain restate

/-- The message of the record that a gateway is being opened. -/
def establishingMessage : String := "establishing root"

/-- The gateway for the root that a text spells, which must exist and be readable.  The root gets
its handle. -/
def establish (backend : Backend σ) (identities : Identity.Registry σ)
    (permissions : PermissionModel) (root : String) : Act σ (Gateway σ) := do
  let rootPath ← Act.check (Path.ofText root)
  let g : Gateway σ := ⟨backend, identities, permissions, rootPath⟩
  Act.note .info establishingMessage [("rootPath", rootPath.toText)]
  let readable ← Act.withSession backend g.rootReadable
  if readable then
    Act.table fun t => t.mountRoot rootPath
    return g
  else Call.fail (Refusal.rootUnavailable rootPath.toText)

end Gateway

end InodeGateway
