import InodeGateway.Gateway.Operations

/-!
# Replies

What the service sends back.

## Main definitions

* `Reply` — status, type and content
* `Reply.ofFailure` — the reply to a request that failed
* `Reply.attributes?`, `Reply.entries?` — what the gateway answers, as documents
-/

namespace InodeGateway.Http

inductive Content where
  | empty
  | json (document : Json)
  | text (text : String)
  deriving Repr

/-- What the service sends back. -/
structure Reply where
  status : Nat
  type : Option String
  content : Content
  deriving Repr

namespace Reply

def jsonType : String := "application/json; charset=utf-8"

def json (status : Nat) (members : List (String × Json)) : Reply :=
  ⟨status, some jsonType, .json (.ofMembers members)⟩

def data (status : Nat) (document : Json) : Reply := json status [("data", document)]

def headOnly (r : Reply) : Reply := { r with content := .empty }

def error (status : Nat) (members : List (String × Json)) : Reply :=
  json status [("error", Json.ofMembers members)]

/-- The status for a class of failure. -/
def statusOf : Code → Nat
  | .invalidArgument => 400
  | .permissionDenied => 403
  | .notFound => 404
  | .alreadyExists | .alreadyMapped => 409
  | .notSupported => 501
  | .ioFailure => 502
  | .internalInconsistency => 500

/-- The details of a failure as a document. -/
def detailsOf : Option (List (String × Json)) → Json
  | some details => .ofMembers details
  | none => .null

/-- The reply when something is wrong that no one thought of. -/
def unexpected : Reply :=
  error 500 [("code", "INTERNAL_SERVER_ERROR"), ("message", "Unexpected error occurred")]

def ofFailure (f : Failure) : Reply :=
  match f.fault with
  | .gateway code message details =>
    error (statusOf code)
      [("code", code.text), ("message", message), ("details", detailsOf details)]
  | _ => unexpected

/-- Attributes as a document, if their times can be written. -/
def attributes? (a : Attributes) : Option Json := do
  let accessed ← a.accessedAt.toIso?
  let modified ← a.modifiedAt.toIso?
  let created ← a.createdAt.toIso?
  return .ofMembers [
    ("ino", a.inode.toText), ("fileId", a.fileId.toText), ("type", a.kind.text),
    ("mode", a.mode), ("nlink", Attributes.links), ("uid", a.userId),
    ("gid", Attributes.groupId), ("size", a.size), ("dev", Attributes.device),
    ("rdev", Attributes.device), ("atime", accessed), ("mtime", modified), ("ctime", created),
    ("generation", a.generation)]

def entry? (e : DirectoryEntry) : Option Json := do
  return .ofMembers [("name", e.name), ("handle", e.handle.toText),
    ("attributes", ← attributes? e.attributes)]

def entries? (list : List DirectoryEntry) : Option Json := .arr <$> list.mapM entry?

def handle (h : Handle) : Json := .ofMembers [("handle", h.toText)]

/-- An object that was made, as a document. -/
def created? (made : Handle × Attributes) : Option Json := do
  return .ofMembers [("handle", made.1.toText), ("attributes", ← attributes? made.2)]

def statistics (s : Statistics) : Json :=
  .ofMembers [("totalBytes", s.totalBytes), ("freeBytes", s.freeBytes),
    ("usedBytes", s.usedBytes), ("totalFiles", Statistics.totalFiles), ("usedFiles", s.usedFiles)]

/-- A reply with data, or the unexpected one if the data cannot be written. -/
def dataOr (status : Nat) : Option Json → Reply
  | some document => data status document
  | none => unexpected

end Reply

end InodeGateway.Http
