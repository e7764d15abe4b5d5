import InodeGateway.Proofs.Gateway.Making
import InodeGateway.Proofs.Http.Service

/-!
# Creation requests that are answered with an error

A request for a new object is served in two steps: the object is made, and then its attributes are
read back.  When the second step fails, the object is there, though the reply tells of an error.

## Main definitions

* `Http.Service.Leaves` — what a creation request may leave
* `Http.Service.Growing` — the states of a service whose tree loses nothing

## Main statements

* `Http.Service.Growing.gains` — what is made there had no handle, and gets the next one
* `Http.Service.Reached.respond_creation` — what a creation request leaves that is not answered with
  success
-/

namespace InodeGateway

namespace Http

/-- The time at which something is made now can be written, unless the clock is invalid. -/
theorem now_invalid {m : Memory} {p : Path} {kind : Kind} {permissions : PermissionModel}
    {made : Handle} {a : Attributes} {id : Nat}
    (ha : a = Attributes.shown permissions made (Memory.metadataOf p (m.newNode kind)) id)
    (h : Reply.created? (made, a) = none) : m.now = .invalid := by
  cases hnow : m.now with
  | invalid => rfl
  | «at» ms =>
    have times : a.createdAt = m.now ∧ a.modifiedAt = m.now := ha ▸ ⟨rfl, rfl⟩
    simp [Reply.created?, Reply.attributes?, Attributes.accessedAt, times, hnow, Instant.toIso?] at h

theorem status_of_ioFailure {f : Failure} (h : f.code? = some .ioFailure) :
    (Reply.ofFailure f).status = 502 := by
  cases heq : f.fault with
  | gateway code message details =>
    have hcode : code = .ioFailure := by simpa [Failure.code?, heq] using h
    simp only [Reply.ofFailure, heq, hcode]
    rfl
  | _ => simp [Failure.code?, heq] at h

namespace Service

variable {ι : Type} {identities : Identity.Registry ι} {permissions : PermissionModel}
  {rootPath : Path} {enabled : Bool} {state : ServiceState (Site Memory ι)} {r : Request}

/-- A service over a tree in memory, beside a registry of identities with a state of its own. -/
def besideTree (identities : Identity.Registry ι) (permissions : PermissionModel)
    (rootPath : Path) (enabled : Bool) : Service (Site Memory ι) :=
  ⟨Gateway.besideTree identities permissions rootPath, enabled⟩

/-- What a creation request leaves, given the tree, the registry and the table before it.  It may
touch nothing; or the object is there, and then the reply says so unless the owner has no user id
or the clock shows no time that can be written. -/
inductive Leaves (identities : Identity.Registry ι) (m : Memory) (i : ι) (T : Inodes)
    (status : Nat) (b : Site Memory ι) (t : Inodes) : Prop
  | untouched (h : Gateway.Untouched m T b t) : Leaves identities m i T status b t
  | made {p : Path} {kind : Kind} (h : Gateway.Made m T p kind b t) (hstatus : status = 201) :
      Leaves identities m i T status b t
  | unowned (h : Gateway.MadeUnowned identities m i T b t) (hstatus : status = 502) :
      Leaves identities m i T status b t
  | timeless {p : Path} {kind : Kind} (h : Gateway.Made m T p kind b t) (hnow : m.now = .invalid)
      (hstatus : status = 500) : Leaves identities m i T status b t

theorem serve_creation {m : Memory} {i : ι} {T : Inodes} (dense : T.Dense) (text : String)
    (document : Json) :
    Act.Triple (Site.Holds (fun b t => Memory.Still m b ∧ t = T) (· = i))
      ((besideTree identities permissions rootPath enabled).serve state (.create text) document)
      (fun reply => Leaves identities m i T reply.status) fun _ _ _ => False := by
  refine once_triple (fun ready _ => replying_triple ?_) fun reply _ b t ⟨⟨still, ht⟩, _⟩ =>
    .untouched ⟨still, ht⟩
  refine (Gateway.making_beside dense _ _ _ _ _).consequence (fun _ _ h => h) ?_ ?_
  · rintro x b t ⟨p, kind, made, id, hx⟩
    cases hdocument : Reply.created? x with
    | some document => exact .made made rfl
    | none => exact .timeless made (now_invalid hx hdocument) rfl
  · rintro f b t (untouched | ⟨made, hcode⟩)
    · exact .untouched untouched
    · exact .unowned made (status_of_ioFailure hcode)

/-- A creation request leaves what it may. -/
theorem leaves_of_respond (dense : state.world.inodes.Dense) (hmethod : r.method = "POST")
    {text : String} (htarget : Target.segments? r.target = some ["v1", "inodes", text, "children"]) :
    let after := (besideTree identities permissions rootPath enabled).respond state r
    Leaves identities state.world.backend.storage state.world.backend.registry state.world.inodes
      after.1.status after.2.world.backend after.2.world.inodes := by
  intro after
  have same : ∀ status (w : World (Site Memory ι)), w = state.world →
      Leaves identities state.world.backend.storage state.world.backend.registry state.world.inodes
        status w.backend w.inodes := by
    rintro status _ rfl
    exact .untouched ⟨Memory.Still.refl _, rfl⟩
  have listed : "POST" ∈ Route.methods := by decide
  have route : Route.find? "POST" ["v1", "inodes", text, "children"] =
      if Route.fits text then some (.create text) else none := by
    simp [Route.find?, Route.sending?, Route.parameters, Option.filter]
  have found : after = if Route.fits text then
      (besideTree identities permissions rootPath enabled).respondRoute state r (.create text)
      else (besideTree identities permissions rootPath enabled).respondUnknown state r := by
    simp only [after, respond, hmethod, listed, if_true, htarget, route]
    cases Route.fits text <;> rfl
  rw [found]
  -- A handle that is too long leads to no route; any other one leads to the creation.
  split
  · simp only [respondRoute, hmethod, visible, world_count]
    rcases world_answerRoute (besideTree identities permissions rootPath enabled) state r
      (.create text) with heq | ⟨document, heq, hreply⟩
    · exact same _ _ heq
    · have served : Act.Triple _
          ((besideTree identities permissions rootPath enabled).serve state (.create text) document)
          _ _ := serve_creation (m := state.world.backend.storage)
            (i := state.world.backend.registry) dense text document
      have ends := served state.world ⟨⟨Memory.Still.refl _, rfl⟩, rfl⟩
      rcases hserved : ((besideTree identities permissions rootPath enabled).serve state
        (.create text) document).answer state.world with ⟨f | reply, w⟩ <;>
        rw [hserved] at ends heq hreply
      · exact ends.elim
      · rw [heq, hreply reply rfl]
        exact ends
  · exact same _ _ (world_respondUnknown _ state r)

/-- The states that a service comes to whose tree loses nothing: its gateway was opened over a tree
that calls and seeds had made, it answered requests, and others did something with the tree in
between. -/
inductive Growing (s : Service (Site Memory ι)) : ServiceState (Site Memory ι) → Prop
  | opened {root : String} {w : World (Site Memory ι)} (h : s.gateway.OpenedAt root w)
      (hw : w.backend.storage.Reachable) : Growing s { world := w }
  | responded {state : ServiceState (Site Memory ι)} (h : Growing s state) (r : Request) :
      Growing s (s.respond state r).2
  | changed {state : ServiceState (Site Memory ι)} (h : Growing s state)
      (f : Site Memory ι → Site Memory ι)
      (turns : ∀ b : Site Memory ι, b.storage.Turns (f b).storage) :
      Growing s { state with world := { state.world with backend := f state.world.backend } }

namespace Growing

variable {s : Service (Site Memory ι)}

theorem reached (h : s.Growing state) : s.Reached state := by
  induction h with
  | opened h _ => exact .opened h
  | responded _ r ih => exact .responded ih r
  | changed _ f _ ih => exact .changed ih f

/-- The gateway of the service was opened and used in turns. -/
theorem exists_afterSteps (h : s.Growing state) : ∃ root w, s.gateway.OpenedAt root w ∧
    w.backend.storage.Reachable ∧ ∃ steps : List (Gateway.Step (Site Memory ι)),
      (∀ step ∈ steps, step.Turns) ∧ state.world = s.gateway.afterSteps w steps := by
  induction h with
  | @opened root w h hw => exact ⟨root, w, h, hw, [], List.forall_mem_nil _, rfl⟩
  | @responded state _ r ih =>
    obtain ⟨root, w, opened, hw, steps, turns, heq⟩ := ih
    obtain ⟨rs, hrs⟩ := s.respond_performs state r
    refine ⟨root, w, opened, hw, steps ++ rs.map .request, ?_, ?_⟩
    · exact List.forall_mem_append.mpr ⟨turns, List.forall_mem_map.mpr fun _ _ => trivial⟩
    · rw [hrs, heq, Gateway.afterSteps_append, Gateway.afterSteps_requests]
  | changed _ f turned ih =>
    obtain ⟨root, w, opened, hw, steps, turns, heq⟩ := ih
    refine ⟨root, w, opened, hw, steps ++ [.change f], ?_, ?_⟩
    · exact List.forall_mem_append.mpr ⟨turns, List.forall_mem_singleton.mpr turned⟩
    · rw [heq, Gateway.afterSteps_append]
      rfl

/-- Where the tree loses nothing, what was made had no handle, and it has the next one. -/
theorem gains (h : (besideTree identities permissions rootPath enabled).Growing state)
    {p : Path} {kind : Kind} {b : Site Memory ι} {t : Inodes}
    (made : Gateway.Made state.world.backend.storage state.world.inodes p kind b t) :
    state.world.inodes.Gains p t := by
  obtain ⟨root, w, opened, hw, steps, turns, heq⟩ := h.exists_afterSteps
  obtain ⟨-, grounded⟩ := Gateway.OpenedAt.afterSteps_inTree opened hw turns
  obtain ⟨-, q, hparent, -⟩ := made.parent
  exact made.table.gains (Gateway.Grounded.not_mem (heq ▸ grounded) hparent made.admitted)

end Growing

/-- Whatever happened to the service before: a creation request leaves what it may.  Where the tree
loses nothing, an object that was made had no handle, and it has the next one. -/
theorem Reached.respond_creation
    (reached : (besideTree identities permissions rootPath enabled).Reached state)
    (hmethod : r.method = "POST") {text : String}
    (htarget : Target.segments? r.target = some ["v1", "inodes", text, "children"]) :
    let after := (besideTree identities permissions rootPath enabled).respond state r
    Leaves identities state.world.backend.storage state.world.backend.registry state.world.inodes
      after.1.status after.2.world.backend after.2.world.inodes ∧
    ((besideTree identities permissions rootPath enabled).Growing state → ∀ p kind,
      Gateway.Made state.world.backend.storage state.world.inodes p kind after.2.world.backend
        after.2.world.inodes → state.world.inodes.Gains p after.2.world.inodes) :=
  ⟨leaves_of_respond reached.denseAt.dense hmethod htarget, fun growing _ _ made =>
    growing.gains made⟩

/-- A service over a new tree in memory whose registry knows no owner. -/
def strangers : Service (Site Memory Unit) :=
  besideTree (Identity.static {} : Identity.Directory) .fixed .root false

def strangersNew : World (Site Memory Unit) where
  backend := ⟨Memory.empty ⟨"rods", "tempZone"⟩ 1024 (.at 0), (), 0⟩

/-- The service when its gateway was just opened. -/
def strangersOpen : ServiceState (Site Memory Unit) where
  world := ((Gateway.establish strangers.gateway.backend strangers.gateway.identities
    strangers.gateway.permissions "/").answer strangersNew).2

/-- A request for a file in the root. -/
def fileWanted : Request where
  method := "POST"
  target := "/v1/inodes/1/children"
  contentType := some "application/json"
  content := some "\x7b\"name\":\"notes\",\"kind\":\"file\"\x7d"

/-- The path of the file. -/
def wantedPath : Path := ⟨[⟨"notes", by decide⟩]⟩

theorem strangersOpen_growing : strangers.Growing strangersOpen := by
  have opened : strangers.gateway.OpenedAt "/" strangersOpen.world :=
    ⟨strangers.gateway.backend, strangers.gateway.identities, strangers.gateway.permissions,
      strangersNew, rfl, rfl⟩
  have start : Memory.Reachable strangersNew.backend.storage :=
    @Memory.Reachable.created _ _ _ [] _ rfl
  exact .opened opened ((start.called .openSession).called (.release 0))

/-- The request is answered with an error, and the file is made all the same and gets the next
handle. -/
theorem strangers_leave : (strangers.respond strangersOpen fileWanted).1.status = 502 ∧
    Leaves (Identity.static {} : Identity.Directory).registry strangersOpen.world.backend.storage
      () strangersOpen.world.inodes 502
      (strangers.respond strangersOpen fileWanted).2.world.backend
      (strangers.respond strangersOpen fileWanted).2.world.inodes ∧
    ∃ p, strangersOpen.world.inodes.Gains p
      (strangers.respond strangersOpen fileWanted).2.world.inodes := by
  have status : (strangers.respond strangersOpen fileWanted).1.status = 502 := by decide +kernel
  have target : Target.segments? fileWanted.target = some ["v1", "inodes", "1", "children"] := by
    decide +kernel
  have two : (strangers.respond strangersOpen fileWanted).2.world.inodes.size = 2 := by
    decide +kernel
  obtain ⟨leaves, gains⟩ :=
    Reached.respond_creation strangersOpen_growing.reached (r := fileWanted) rfl target
  have left := status ▸ leaves
  refine ⟨status, left, ?_⟩
  cases left with
  | untouched h =>
    rw [show (strangers.respond strangersOpen fileWanted).2.world.inodes = _ from h.2] at two
    cases two
  | made h hstatus => cases hstatus
  | unowned h _ =>
    obtain ⟨p, kind, made, -⟩ := h
    exact ⟨p, gains strangersOpen_growing p kind made⟩
  | timeless h _ hstatus => cases hstatus

/-- A request for an object is answered with an error, and yet the tree has one more object and the
table one more handle. -/
theorem refused_creation_makes : strangers.Reached strangersOpen ∧
    fileWanted.method = "POST" ∧
    Target.segments? fileWanted.target = some ["v1", "inodes", "1", "children"] ∧
    (strangers.respond strangersOpen fileWanted).1.status ≠ 201 ∧
    ¬ strangersOpen.world.backend.storage.nodes.contains wantedPath ∧
    (strangers.respond strangersOpen fileWanted).2.world.backend.storage.nodes.contains wantedPath ∧
    strangersOpen.world.inodes.size = 1 ∧
    (strangers.respond strangersOpen fileWanted).2.world.inodes.size = 2 := by
  refine ⟨strangersOpen_growing.reached, rfl, ?_, ?_, ?_, ?_, ?_, ?_⟩ <;> decide +kernel

end Service

end Http

end InodeGateway
