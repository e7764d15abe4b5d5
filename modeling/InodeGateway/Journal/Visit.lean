import InodeGateway.Json

/-!
# Requests in the journal

Fields that describe a request of a client are not written one by one: the line tells the request
instead, in the words that journals have for it.

## Main definitions

* `Journal.isRequest` — whether members describe a request
* `Journal.requestSummary` — what is told about it
-/

namespace InodeGateway.Journal

/-- The members by which a request is known. -/
def requestMarks : List String := ["method", "headers", "socket"]

/-- The member of an object under a name, if it says something. -/
def telling? (j : Json) (name : String) : Option Json := (j.get? name).filter Json.isTelling

/-- Whether members describe a request. -/
def isRequest (j : Json) : Bool := requestMarks.all fun name => (telling? j name).isSome

/-- The address that a request asks for: the one that was written, else the path, else the
address or the path in it. -/
def requestedUrl? (j : Json) : Option Json :=
  match telling? j "originalUrl", j.get? "path", telling? j "url" with
  | some url, _, _ => some url
  | none, some (.str path), _ => some (.str path)
  | none, _, some url => some ((telling? url "path").getD url)
  | none, _, none => none

/-- What is told about a request: the parts that are known. -/
def requestSummary (j : Json) : Json :=
  let info := telling? j "info"
  let connection := (info <|> j.get? "socket").getD .null
  let parts : List (String × Option Json) := [
    ("id", telling? j "id" <|> info.bind (Json.get? "id")),
    ("method", j.get? "method"),
    ("url", requestedUrl? j),
    ("query", telling? j "query"),
    ("params", telling? j "params"),
    ("headers", j.get? "headers"),
    ("remoteAddress", connection.get? "remoteAddress"),
    ("remotePort", connection.get? "remotePort")]
  .obj (parts.filterMap fun part => part.2.map fun value => (part.1, value))

end InodeGateway.Journal
