import InodeGateway.Failure
import InodeGateway.Http.Target

/-!
# Requests

What a client writes down, and what of it arrives.  Before anything is sent, the client makes sure
that the method is one of the known ones and that the reference leads somewhere.

## Main definitions

* `Draft` — a request as it is written down
* `Request` — a request as it arrives
* `Draft.send` — the request of a draft
-/

namespace InodeGateway.Http

/-- A request as it is written down. -/
structure Draft where
  method : String
  reference : String
  contentType : Option String := none
  content : Option String := none
  deriving DecidableEq, Repr

structure Request where
  method : String
  /-- Path and query of what is asked for. -/
  target : String
  contentType : Option String := none
  /-- The content; never an empty one. -/
  content : Option String := none
  deriving DecidableEq, Repr

namespace Draft

/-- Why a draft is not sent. -/
inductive Fault where
  | unknownMethod
  | noReference
  | badReference
  deriving DecidableEq, Repr

/-- The failure as which a fault is reported. -/
def Fault.failure : Fault → Failure
  | .unknownMethod => ⟨.exception "Error" "must be equal to one of the allowed values", []⟩
  | .noReference =>
    ⟨.exception "TypeError" "Cannot read properties of undefined (reading 'query')", []⟩
  | .badReference => ⟨.exception "TypeError" "Invalid URL", []⟩

def methods : List String :=
  ["ACL", "BIND", "CHECKOUT", "CONNECT", "COPY", "DELETE", "GET", "HEAD", "LINK", "LOCK",
    "M-SEARCH", "MERGE", "MKACTIVITY", "MKCALENDAR", "MKCOL", "MOVE", "NOTIFY", "OPTIONS", "PATCH",
    "POST", "PROPFIND", "PROPPATCH", "PURGE", "PUT", "QUERY", "REBIND", "REPORT", "SEARCH",
    "SOURCE", "SUBSCRIBE", "TRACE", "UNBIND", "UNLINK", "UNLOCK", "UNSUBSCRIBE"]

/-- The method that a text names, in capitals or in small letters throughout. -/
def methodOf? (text : String) : Option String :=
  methods.find? fun method => text = method ∨ text = method.toLower

/-- The request of a draft.  Content is sent in bytes, which cannot hold halves of pairs. -/
def send (d : Draft) : Except Fault Request :=
  match methodOf? d.method with
  | none => .error .unknownMethod
  | some method =>
    if d.reference.isEmpty then .error .noReference
    else
      match Target.ofReference? d.reference with
      | none => .error .badReference
      | some target =>
        .ok { method, target, contentType := d.contentType
              content := (d.content.map Text.wellFormed).filter fun text => !text.isEmpty }

end Draft

end InodeGateway.Http
