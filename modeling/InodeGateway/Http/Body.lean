import InodeGateway.Http.Media
import InodeGateway.Http.Reply
import InodeGateway.Http.Request
import InodeGateway.Json.Parser
import InodeGateway.Text.Cut

/-!
# Request bodies

How the content of a request becomes a document.  Content has a type; two types are known.  Names
that could reach into the machinery of a reader are refused wherever they occur.

## Main definitions

* `Rejection` — why content is not read
* `Request.document` — the document that a request carries, if it carries one
-/

namespace InodeGateway.Http

/-- Why content is not read. -/
inductive Rejection where
  | unknownType (type : String)
  /-- A document was promised and none sent. -/
  | emptyDocument
  /-- What was sent is no document, or not a harmless one. -/
  | malformed
  /-- There is too much of it. -/
  | tooLarge
  deriving DecidableEq, Repr

namespace Rejection

/-- The error that a rejection is reported as. -/
def members : Rejection → List (String × Json)
  | .unknownType type =>
    [("code", "FST_ERR_CTP_INVALID_MEDIA_TYPE"), ("error", "Unsupported Media Type"),
      ("message", "Unsupported Media Type: " ++ type)]
  | .emptyDocument =>
    [("code", "FST_ERR_CTP_EMPTY_JSON_BODY"), ("error", "Bad Request"),
      ("message", "Body cannot be empty when content-type is set to 'application/json'")]
  | .malformed => [("error", "Bad Request"), ("message", Json.null)]
  | .tooLarge =>
    [("code", "FST_ERR_CTP_BODY_TOO_LARGE"), ("error", "Payload Too Large"),
      ("message", "Request body is too large")]

def status : Rejection → Nat
  | .unknownType _ => 415
  | .tooLarge => 413
  | _ => 400

/-- The reply to a request whose content is not read. -/
def reply (r : Rejection) : Reply := .json r.status (("statusCode", r.status) :: r.members)

end Rejection

/-- The types of content that are known. -/
inductive ContentType where
  | document
  | text
  deriving DecidableEq, Repr

namespace ContentType

/-- The known type that is written: its name holds that of the type. -/
def ofText? (written : String) : Option ContentType :=
  match Media.nameOf? written with
  | none => none
  | some name =>
    if Text.occurs "application/json".toList name then some .document
    else if Text.occurs "text/plain".toList name then some .text
    else none

end ContentType

mutual

/-- Whether no object in a document has a member that could reach into a reader. -/
def isHarmless : Json → Bool
  | .arr items => areHarmless items
  | .obj members => membersAreHarmless members
  | _ => true

def areHarmless : List Json → Bool
  | [] => true
  | item :: rest => isHarmless item && areHarmless rest

def membersAreHarmless : List (String × Json) → Bool
  | [] => true
  | (name, value) :: rest =>
    name ≠ "__proto__" &&
      (name ≠ "constructor" ||
        match value with
        | .null => false
        | .obj inner => (OrderedMap.find "prototype" inner).isNone
        | _ => true) &&
      isHarmless value && membersAreHarmless rest

end

/-- The document that characters spell, if it is harmless.  A byte order mark before it does not
count. -/
def readDocument (content : String) : Except Rejection Json :=
  if content.isEmpty then .error .emptyDocument
  else
    let text := match content.toList with
      | '\ufeff' :: rest => String.ofList rest
      | _ => content
    match Json.parse? text with
    | some j => if isHarmless j then .ok j else .error .malformed
    | none => .error .malformed

namespace Request

/-- The greatest content, in bytes. -/
def contentLimit : Nat := 1048576

/-- The methods whose content is read. -/
def carryingMethods : List String :=
  ["DELETE", "OPTIONS", "PATCH", "PUT", "POST", "COPY", "LOCK", "MOVE", "MKCOL", "PROPFIND",
    "PROPPATCH", "REPORT", "SEARCH", "MKCALENDAR", "TRACE"]

/-- The methods of which a type without content promises none. -/
def sparingMethods : List String := ["DELETE", "OPTIONS"]

def read (type content : String) : Except Rejection Json :=
  match ContentType.ofText? type with
  | none => .error (.unknownType (if type.isEmpty then "undefined" else type))
  | some known =>
    if contentLimit < Text.byteSize content then .error .tooLarge
    else
      match known with
      | .document => readDocument content
      | .text => .ok (.str content)

/-- The document that a request carries, if it carries one.  A type without content promises some
with most methods. -/
def document (r : Request) : Except Rejection (Option Json) :=
  if r.method ∈ carryingMethods then
    match r.contentType, r.content with
    | none, none => .ok none
    | none, some content => some <$> read "" content
    | some type, none => if r.method ∈ sparingMethods then .ok none else some <$> read type ""
    | some type, some content => some <$> read type content
  else .ok none

end Request

end InodeGateway.Http
