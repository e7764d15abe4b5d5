import InodeGateway.Http.Target
import InodeGateway.Text.Half

/-!
# Routes

Which requests the service knows.

## Main definitions

* `Route` — what is asked for, with the texts taken from the path
* `Route.pattern` — the shape of the path
* `Route.find?` — the route of a method and a path
-/

namespace InodeGateway.Http

/-- What is asked for. -/
inductive Route where
  | health
  | ready
  | readyz
  | metrics
  | root
  | statistics
  | attributes (handle : String)
  | children (handle : String)
  | child (handle name : String)
  | parent (handle : String)
  | access (handle : String)
  | create (handle : String)
  deriving DecidableEq, Repr

namespace Route

/-- The shape of the path. -/
def pattern : Route → String
  | .health => "/health"
  | .ready => "/ready"
  | .readyz => "/readyz"
  | .metrics => "/metrics"
  | .root => "/v1/root"
  | .statistics => "/v1/fsstat"
  | .attributes _ => "/v1/inodes/:handle/attributes"
  | .children _ | .create _ => "/v1/inodes/:handle/children"
  | .child _ _ => "/v1/inodes/:handle/children/:name"
  | .parent _ => "/v1/inodes/:handle/parent"
  | .access _ => "/v1/inodes/:handle/access"

/-- The greatest length of a text taken from the path. -/
def parameterLimit : Nat := 100

/-- Whether a text from the path is short enough. -/
def fits (parameter : String) : Bool := Text.units16 parameter.toList ≤ parameterLimit

/-- The texts taken from the path. -/
def parameters : Route → List String
  | .attributes handle | .children handle | .parent handle | .access handle | .create handle =>
    [handle]
  | .child handle name => [handle, name]
  | _ => []

/-- What can be read at a path. -/
def reading? : List String → Option Route
  | ["health"] => some .health
  | ["ready"] => some .ready
  | ["readyz"] => some .readyz
  | ["metrics"] => some .metrics
  | ["v1", "root"] => some .root
  | ["v1", "fsstat"] => some .statistics
  | ["v1", "inodes", handle, "attributes"] => some (.attributes handle)
  | ["v1", "inodes", handle, "children"] => some (.children handle)
  | ["v1", "inodes", handle, "children", name] => some (.child handle name)
  | ["v1", "inodes", handle, "parent"] => some (.parent handle)
  | _ => none

/-- What can be sent to a path. -/
def sending? : List String → Option Route
  | ["v1", "inodes", handle, "access"] => some (.access handle)
  | ["v1", "inodes", handle, "children"] => some (.create handle)
  | _ => none

def methods : List String := ["GET", "HEAD", "POST"]

/-- The route of a method and the segments of a path. -/
def find? (method : String) (segments : List String) : Option Route :=
  let route :=
    if method = "GET" ∨ method = "HEAD" then reading? segments
    else if method = "POST" then sending? segments
    else none
  route.filter fun r => r.parameters.all fits

end Route

end InodeGateway.Http
