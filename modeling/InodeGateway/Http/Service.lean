import InodeGateway.Gateway.Operations
import InodeGateway.Http.Body
import InodeGateway.Http.Metrics
import InodeGateway.Http.Route
import InodeGateway.Http.Schema

/-!
# The service

A gateway that is asked by requests over a network.  Everything that a request says is looked at
before the gateway is asked; how the request ended is counted once it is answered.

## Main definitions

* `Service` — a gateway, and whether requests are counted
* `ServiceState` — the world, and the counts
* `Service.serve` — the reply on a route
* `Service.respond` — the reply to a request
-/

namespace InodeGateway.Http

/-- A gateway that is asked by requests. -/
structure Service (σ : Type) where
  gateway : Gateway σ
  /-- Whether requests and operations are counted. -/
  metricsEnabled : Bool

structure ServiceState (σ : Type) where
  world : World σ
  /-- How often each kind of request was answered. -/
  requests : Metrics.Counts Metrics.RequestLabel := {}
  deriving Repr

/-- The reply to a request for something that is not there. -/
def notFound (method target : String) : Reply :=
  .json 404 [("message", "Route " ++ method ++ ":" ++ target ++ " not found"),
    ("error", "Not Found"), ("statusCode", (404 : Nat))]

/-- The reply to a request whose target cannot be decoded.  The target is put into the text of the
reply as it stands. -/
def badTarget (target : String) : Reply :=
  ⟨400, some "application/json",
    .text ("\x7b\"error\":\"Bad Request\",\"code\":\"FST_ERR_BAD_URL\",\"message\":\"'" ++
      target ++ "' is not a valid url component\",\"statusCode\":400\x7d")⟩

/-- A check of what was sent, with its reply when there are complaints. -/
def checked {α : Type} (c : Checked α) : Except Reply α := c.mapError Complaint.reply

/-- The handle that a text from the path spells. -/
def readHandle (text : String) : Except Reply Handle :=
  (Handle.ofText text).mapError fun refusal => .ofFailure refusal.failure

namespace Service

variable {σ α : Type}

/-- The reply to what an action answers, or to its failure. -/
def replying (a : Act σ α) (reply : α → Reply) : Act σ Reply := .of fun w =>
  match a.answer w with
  | (.ok x, after) => (.ok (reply x), after)
  | (.error failure, after) => (.ok (.ofFailure failure), after)

/-- An action that is done once a request was found to be in order. -/
def once (ready : Except Reply α) (act : α → Act σ Reply) : Act σ Reply :=
  match ready with
  | .ok x => act x
  | .error reply => pure reply

/-- Whether the root's attributes can be had. -/
def readiness (s : Service σ) : Act σ Reply := .of fun w =>
  match (s.gateway.getAttributes Handle.root).answer w with
  | (.ok _, after) => (.ok (.json 200 [("status", "ok")]), after)
  | (.error failure, after) =>
    (.ok (.json 503 [("status", "unavailable"), ("reason", failure.message)]), after)

/-- The counts as text, or the news that nothing is counted. -/
def report (s : Service σ) (state : ServiceState σ) : Reply :=
  if s.metricsEnabled then
    let operations := Metrics.countAll state.world.observed
    let lines := Metrics.lines state.requests operations state.world.inodes.size
    ⟨200, some "text/plain; version=0.0.4",
      .text (String.join (lines.map fun line => line ++ "\n"))⟩
  else ⟨503, some "text/plain", .text "metrics disabled"⟩

/-- The one text from the path, which must have characters. -/
def handleText (handle : String) : Checked String := Checked.filled "handle" handle

/-- The reply on a route, given the document that the request carries. -/
def serve (s : Service σ) (state : ServiceState σ) (route : Route) (document : Json) :
    Act σ Reply :=
  match route with
  | .health =>
    pure (.json 200 [("status", "ok"), ("rootPath", s.gateway.rootPath.toText),
      ("inodes", state.world.inodes.size)])
  | .ready | .readyz => s.readiness
  | .metrics => pure (s.report state)
  | .root =>
    pure (.json 200 [("handle", Handle.root.toText), ("path", s.gateway.rootPath.toText)])
  | .statistics =>
    replying s.gateway.statistics fun x => .data 200 (Reply.statistics x)
  | .attributes handle =>
    once (do readHandle (← checked (handleText handle))) fun h =>
      replying (s.gateway.getAttributes h) fun a => .dataOr 200 (Reply.attributes? a)
  | .children handle =>
    once (do readHandle (← checked (handleText handle))) fun h =>
      replying (s.gateway.list h) fun list => .dataOr 200 (Reply.entries? list)
  | .parent handle =>
    once (do readHandle (← checked (handleText handle))) fun h =>
      replying (s.gateway.parentOf h) fun p => .data 200 (Reply.handle p)
  | .child handle name =>
    once (do
      let (text, name) ← checked ((handleText handle).both (Checked.filled "name" name))
      return (← readHandle text, name)) fun (h, name) =>
      replying (s.gateway.lookup h name) fun c => .data 200 (Reply.handle c)
  | .access handle =>
    once (do
      let text ← checked (handleText handle)
      let form ← checked (AccessForm.check document)
      return (← readHandle text, form)) fun (h, form) =>
      replying (s.gateway.checkAccess h form.mask) fun granted =>
        .data 200 (.ofMembers [("requested", form.mask), ("granted", granted)])
  | .create handle =>
    once (do
      let text ← checked (handleText handle)
      let form ← checked (CreationForm.check document)
      return (← readHandle text, form)) fun (h, form) =>
      let making : Act σ (Handle × Attributes) := do
        let made ← s.gateway.create h form.name form.kind.text form.owner form.mode
        return (made, ← s.gateway.getAttributes made)
      replying making fun made => .dataOr 201 (Reply.created? made)

/-- The document that a route is served with: none counts as an empty object. -/
def documentOf : Option Json → Json
  | none | some .null => .obj []
  | some j => j

/-- Counts a request, if requests are counted. -/
def count (s : Service σ) (state : ServiceState σ) (l : Metrics.RequestLabel) : ServiceState σ :=
  if s.metricsEnabled then { state with requests := Metrics.count state.requests l } else state

/-- The reply when no route was found.  Content of a known type is read all the same. -/
def answerUnknown (r : Request) : Reply :=
  match r.document with
  | .error (.unknownType _) | .ok _ => notFound r.method r.target
  | .error rejection => rejection.reply

/-- The reply on a route and the state after it. -/
def answerRoute (s : Service σ) (state : ServiceState σ) (r : Request) (route : Route) :
    Reply × ServiceState σ :=
  match r.document with
  | .error rejection => (rejection.reply, state)
  | .ok document =>
    match (s.serve state route (documentOf document)).answer state.world with
    | (.ok reply, after) => (reply, { state with world := after })
    | (.error _, after) => (.unexpected, { state with world := after })

/-- The reply as the method lets it be seen. -/
def visible (method : String) (reply : Reply) : Reply :=
  if method = "HEAD" then reply.headOnly else reply

/-- The reply when no route was found, and the state after it.  A request whose target cannot be
decoded is not looked at any further. -/
def respondUnknown (s : Service σ) (state : ServiceState σ) (r : Request) :
    Reply × ServiceState σ :=
  if Target.isSound r.target then
    let reply := answerUnknown r
    (reply, s.count state ⟨r.method, r.target, reply.status⟩)
  else (notFound r.method r.target, state)

/-- The reply on a route and the state after it, as the method lets it be seen. -/
def respondRoute (s : Service σ) (state : ServiceState σ) (r : Request) (route : Route) :
    Reply × ServiceState σ :=
  let (reply, after) := s.answerRoute state r route
  (visible r.method reply, s.count after ⟨r.method, route.pattern, reply.status⟩)

/-- The reply to a request and the state after it.  Where the method has no routes, nobody looks for
one; a target on which one is looked for has to be decoded, or the request is not counted. -/
def respond (s : Service σ) (state : ServiceState σ) (r : Request) : Reply × ServiceState σ :=
  if r.method ∈ Route.methods then
    match Target.segments? r.target with
    | none => (badTarget (Target.withoutSite r.target), state)
    | some segments =>
      match Route.find? r.method segments with
      | none => s.respondUnknown state r
      | some route => s.respondRoute state r route
  else s.respondUnknown state r

end Service

end InodeGateway.Http
