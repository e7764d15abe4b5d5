import InodeGateway.Gateway.Request
import InodeGateway.Proofs.World.Agreement

/-!
# Gateways that mirror each other

Two gateways whose calls agree along a relation of worlds answer every request alike.

## Main definitions

* `Gateway.Mirrors` — the calls of two gateways agree along a relation of worlds
* `Gateway.mount` — opening a gateway, as far as its root
* `Gateway.Extends` — the calls of a gateway on a larger state do what those of another do on a part

## Main statements

* `Gateway.Mirrors.perform_agree` — gateways that mirror each other answer every request alike
* `Gateway.mount_agree` — and they are opened alike
* `Gateway.Extends.perform_view` — what is kept beside the part changes no answer
-/

namespace InodeGateway

/-- A call on a larger state that does on the part in view what the call `c` does. -/
def Call.Extends {σ τ α : Type} (view : τ → σ) (c : Call σ α) (c' : Call τ α) : Prop :=
  ∀ t, (c'.answer t).1 = (c.answer (view t)).1 ∧ view (c'.answer t).2 = (c.answer (view t)).2

/-- The same world, with the part of the backend's state that is in view. -/
def World.viewed {σ τ : Type} (view : τ → σ) (w : World τ) : World σ :=
  ⟨view w.backend, w.inodes, w.journal, w.observed⟩

namespace Gateway

open Act (Agree)

variable {σ τ α : Type}

/-- The calls of two gateways agree along a relation of worlds. -/
structure Mirrors (g : Gateway σ) (g' : Gateway τ) (R : World σ → World τ → Prop) : Prop where
  alongside : Act.Alongside R
  permissions : g'.permissions = g.permissions
  rootPath : g'.rootPath = g.rootPath
  openSession : Agree R (.call g.backend.openSession) (.call g'.backend.openSession)
  stat : ∀ s path, Agree R (.call (g.backend.stat s path)) (.call (g'.backend.stat s path))
  permits : ∀ s right path,
    Agree R (.call (g.backend.permits s right path)) (.call (g'.backend.permits s right path))
  create : ∀ s path kind,
    Agree R (.call (g.backend.create s path kind)) (.call (g'.backend.create s path kind))
  list : ∀ s path, Agree R (.call (g.backend.list s path)) (.call (g'.backend.list s path))
  space : ∀ s, Agree R (g.space s) (g'.space s)
  /-- Releases need not succeed together, as long as the worlds stay related. -/
  release : ∀ s w w', R w w' → R (w.afterRelease g.backend s) (w'.afterRelease g'.backend s)
  identity : ∀ owner,
    Agree R (.call (g.identities.resolve owner)) (.call (g'.identities.resolve owner))

namespace Mirrors

variable {g : Gateway σ} {g' : Gateway τ} {R : World σ → World τ → Prop} (M : g.Mirrors g' R)
include M

theorem session_agree {body : Session → Act σ α} {body' : Session → Act τ α}
    (hbody : ∀ s, Agree R (body s) (body' s)) :
    Agree R (Act.withSession g.backend body) (Act.withSession g'.backend body') :=
  .withSession M.openSession hbody M.release

theorem run_agree {operation : Operation} {context : Journal.Fields} {body : Act σ α}
    {body' : Act τ α} (hbody : Agree R body body') :
    Agree R (run operation context body) (run operation context body') := by
  intro w w' hR
  rw [Gateway.run, Gateway.run, Call.answer_of, Call.answer_of]
  rcases hbody.outcome hR with ⟨f, v, v', heq, heq', after⟩ | ⟨x, v, v', heq, heq', after⟩
  · rw [heq, heq']
    exact ⟨rfl, M.alongside.note (M.alongside.observe after _ _) _ _ _⟩
  · rw [heq, heq']
    exact ⟨rfl, M.alongside.observe after _ _⟩

theorem note_agree (level : Journal.Level) (message : String) (fields : Journal.Fields) :
    Agree R (Act.note level message fields) (Act.note level message fields) :=
  .note M.alongside level message fields

theorem resolve_agree (h : Handle) : Agree R (resolve h) (resolve h) := .look M.alongside _

theorem sightPath_agree (p : Path) : Agree R (sightPath p) (sightPath p) :=
  .explain _ (.table M.alongside _)

theorem sight_agree (text : String) : Agree R (sight text) (sight text) :=
  .explain _ (.table M.alongside _)

theorem ofMetadata_agree (h : Handle) (m : Metadata) :
    Agree R (Attributes.ofMetadata g.identities g.permissions h m)
      (Attributes.ofMetadata g'.identities g'.permissions h m) := by
  rw [M.permissions]
  refine .bind (.bind (.explain _ (M.identity _)) fun text => ?_) fun _ =>
    .bind (M.note_agree _ _ _) fun _ => .pure _
  cases text with
  | none => exact .fail _
  | some text => exact .check _

theorem getAttributes_agree (h : Handle) : Agree R (g.getAttributes h) (g'.getAttributes h) := by
  refine M.run_agree (.bind (M.resolve_agree h) fun p => M.session_agree fun s => ?_)
  exact .bind (M.stat s p.toText) fun m => M.ofMetadata_agree h m

theorem probe_agree (s : Session) (path : String) (mask : Num) :
    Agree R (Access.probe g.backend s path mask) (Access.probe g'.backend s path mask) := by
  have asked : ∀ right, Agree R (Access.ask g.backend s path mask right)
      (Access.ask g'.backend s path mask right) := by
    intro right
    unfold Access.ask
    split
    · exact M.permits s right path
    · exact .pure _
  refine .bind (asked .execute) fun _ => .bind (asked .write) fun write => ?_
  cases write with
  | true => exact .bind (.pure _) fun _ => .bind (M.note_agree _ _ _) fun _ => .pure _
  | false => exact .bind (asked .read) fun _ => .bind (M.note_agree _ _ _) fun _ => .pure _

theorem checkAccess_agree (h : Handle) (mask : Num) :
    Agree R (g.checkAccess h mask) (g'.checkAccess h mask) := by
  refine M.run_agree (.bind (.check _) fun _ => .bind (M.resolve_agree h) fun p => ?_)
  exact .explain _ (M.session_agree fun s => M.probe_agree s p.toText _)

theorem create_agree (parent : Handle) (name kind : String) (owner : Principal) (mode : Num) :
    Agree R (g.create parent name kind owner mode) (g'.create parent name kind owner mode) := by
  refine M.run_agree (.bind (.check _) fun wanted => .bind (.look M.alongside _) fun p => ?_)
  refine .bind (M.note_agree _ _ _) fun _ => ?_
  refine .bind (M.session_agree fun s => M.create s _ _) fun _ => ?_
  refine .bind (M.sightPath_agree _) fun h => ?_
  exact .bind (M.note_agree _ _ _) fun _ => .bind (M.note_agree _ _ _) fun _ => .pure _

theorem entries_agree (s : Session) (children : List String) :
    Agree R (g.entries s children) (g'.entries s children) := by
  induction children with
  | nil => exact .pure _
  | cons child rest ih =>
    refine .bind (.orMissing _ (.map _ (M.stat s child))) fun described => ?_
    cases described with
    | none => exact .bind (M.note_agree _ _ _) fun _ => ih
    | some m =>
      refine .bind (M.sight_agree child) fun h => .bind (.check _) fun name => ?_
      exact .bind (M.ofMetadata_agree h m) fun _ => .bind ih fun _ => .pure _

theorem list_agree (h : Handle) : Agree R (g.list h) (g'.list h) := by
  refine M.run_agree (.bind (M.resolve_agree h) fun p => M.session_agree fun s => ?_)
  exact .bind (M.list s p.toText) fun children => M.entries_agree s children

theorem parentHandle_agree (p : Path) : Agree R (g.parentHandle p) (g'.parentHandle p) := by
  unfold Gateway.parentHandle
  rw [M.rootPath]
  split
  · exact .pure _
  · cases p.parent? with
    | none => exact .pure _
    | some q =>
      simp only
      split
      · exact M.sightPath_agree q
      · exact .pure _

theorem lookup_agree (parent : Handle) (name : String) :
    Agree R (g.lookup parent name) (g'.lookup parent name) := by
  refine M.run_agree <| .bind (M.resolve_agree parent) fun p => ?_
  split
  · exact .pure _
  · split
    · exact M.parentHandle_agree p
    · refine .bind (.check _) fun n => ?_
      exact .bind (M.session_agree fun s => M.stat s _) fun _ => M.sightPath_agree _

theorem parentOf_agree (h : Handle) : Agree R (g.parentOf h) (g'.parentOf h) :=
  M.run_agree <| .bind (M.resolve_agree h) fun p => M.parentHandle_agree p

theorem statistics_agree : Agree R g.statistics g'.statistics :=
  M.run_agree <| .bind (M.session_agree M.space) fun _ =>
    .bind (.look M.alongside _) fun _ => .pure _

theorem commit_agree (h : Handle) : Agree R (g.commit h) (g'.commit h) :=
  M.run_agree <| .bind (M.resolve_agree h) fun _ => .pure _

theorem decline_agree (operation : Operation) (handles : List Handle) :
    Agree R (g.decline operation handles) (g'.decline operation handles) := by
  have resolved : Agree R (resolveAll handles) (resolveAll handles) := by
    induction handles with
    | nil => exact .pure _
    | cons h rest ih => exact .bind (M.resolve_agree h) fun _ => ih
  exact M.run_agree <| .bind resolved fun _ => .fail _

/-- Gateways that mirror each other answer every request alike, and the worlds stay related. -/
theorem perform_agree (r : Request) : Agree R (g.perform r) (g'.perform r) := by
  cases r with
  | getAttributes h => exact .map _ (M.getAttributes_agree h)
  | checkAccess h mask => exact .map _ (M.checkAccess_agree h mask)
  | create parent name kind owner mode => exact .map _ (M.create_agree parent name kind owner mode)
  | list h => exact .map _ (M.list_agree h)
  | lookup parent name => exact .map _ (M.lookup_agree parent name)
  | parentOf h => exact .map _ (M.parentOf_agree h)
  | statistics => exact .map _ M.statistics_agree
  | commit h => exact .map _ (M.commit_agree h)
  | unoffered what => exact .map _ (M.decline_agree what.operation what.handles)

end Mirrors

/-- What opening a gateway does, as far as its root is concerned: the root is looked at and
mounted. -/
def mount (backend : Backend σ) (identities : Identity.Registry σ) (permissions : PermissionModel)
    (root : String) : Act σ Path := do
  let rootPath ← Act.check (Path.ofText root)
  Act.note .info establishingMessage [("rootPath", rootPath.toText)]
  let readable ← Act.withSession backend
    (rootReadable ⟨backend, identities, permissions, rootPath⟩)
  if readable then
    Act.table fun t => t.mountRoot rootPath
    return rootPath
  else Call.fail (Refusal.rootUnavailable rootPath.toText)

/-- Besides its root, an open gateway has what it was opened with. -/
theorem establish_eq_map (backend : Backend σ) (identities : Identity.Registry σ)
    (permissions : PermissionModel) (root : String) :
    establish backend identities permissions root =
      (fun rootPath => ⟨backend, identities, permissions, rootPath⟩) <$>
        mount backend identities permissions root := by
  unfold establish mount
  simp only [map_bind]
  congr 1
  funext rootPath
  congr 1
  funext _
  congr 1
  funext readable
  cases readable with
  | true => simp only [if_true, map_bind, map_pure]
  | false => rfl

/-- Gateways that mirror each other are opened alike. -/
theorem mount_agree {backend : Backend σ} {backend' : Backend τ}
    {identities : Identity.Registry σ} {identities' : Identity.Registry τ}
    {permissions : PermissionModel} {R : World σ → World τ → Prop}
    (M : ∀ rootPath, Mirrors ⟨backend, identities, permissions, rootPath⟩
      ⟨backend', identities', permissions, rootPath⟩ R) (root : String) :
    Agree R (mount backend identities permissions root)
      (mount backend' identities' permissions root) := by
  refine .bind (.check _) fun rootPath => ?_
  refine .bind ((M rootPath).note_agree _ _ _) fun _ => ?_
  refine .bind ((M rootPath).session_agree fun s => ?_) fun readable => ?_
  · refine .explain _ (.orMissing _ (.bind ((M rootPath).stat s _) fun _ => ?_))
    exact (M rootPath).permits s .read _
  · cases readable with
    | true => exact .bind (.table (M rootPath).alongside _) fun _ => .pure _
    | false => exact .fail _

/-- The calls of `g'` do on the part in view what the calls of `g` do. -/
structure Extends (view : τ → σ) (g : Gateway σ) (g' : Gateway τ) : Prop where
  kind : g'.backend.kind = g.backend.kind
  permissions : g'.permissions = g.permissions
  rootPath : g'.rootPath = g.rootPath
  openSession : g.backend.openSession.Extends view g'.backend.openSession
  stat : ∀ s path, (g.backend.stat s path).Extends view (g'.backend.stat s path)
  permits : ∀ s right path,
    (g.backend.permits s right path).Extends view (g'.backend.permits s right path)
  create : ∀ s path kind,
    (g.backend.create s path kind).Extends view (g'.backend.create s path kind)
  list : ∀ s path, (g.backend.list s path).Extends view (g'.backend.list s path)
  capacity : Option.Rel (fun c c' => ∀ s, (c s).Extends view (c' s)) g.backend.capacity
    g'.backend.capacity
  release : ∀ s, (g.backend.release s).Extends view (g'.backend.release s)
  identity : ∀ owner, (g.identities.resolve owner).Extends view (g'.identities.resolve owner)

namespace Extends

variable {view : τ → σ} {g : Gateway σ} {g' : Gateway τ}

theorem call_agree {c : Call σ α} {c' : Call τ α} (h : c.Extends view c') :
    Agree (fun w w' => w'.viewed view = w) (Act.call c) (Act.call c') := by
  rintro w w' rfl
  rw [Act.answer_call, Act.answer_call]
  obtain ⟨same, after⟩ := h w'.backend
  refine ⟨same, ?_⟩
  simp only [World.viewed, after]

theorem mirrors (X : Extends view g g') : g.Mirrors g' fun w w' => w'.viewed view = w where
  alongside := {
    inodes := fun h => h ▸ rfl
    setInodes := fun h _ => h ▸ rfl
    note := fun h _ _ _ => h ▸ rfl
    observe := fun h _ _ => h ▸ rfl }
  permissions := X.permissions
  rootPath := X.rootPath
  openSession := call_agree X.openSession
  stat s path := call_agree (X.stat s path)
  permits s right path := call_agree (X.permits s right path)
  create s path kind := call_agree (X.create s path kind)
  list s path := call_agree (X.list s path)
  space s := by
    unfold space
    generalize g.backend.capacity = told, g'.backend.capacity = told', X.capacity = related
    cases related with
    | none => exact .pure _
    | some h => exact call_agree (h s)
  release s w w' hR := by
    -- A failure to release is noted on both sides, for it is the same one.
    unfold World.afterRelease
    rcases (call_agree (X.release s)).outcome hR with
      ⟨f, v, v', heq, heq', after⟩ | ⟨_, v, v', heq, heq', after⟩
    · rw [heq, heq', X.kind]
      exact after ▸ rfl
    · rw [heq, heq']
      exact after
  identity owner := call_agree (X.identity owner)

/-- What is kept beside the part in view changes neither an answer nor that part. -/
theorem perform_view (X : Extends view g g') (w' : World τ) (r : Request) :
    ((g'.perform r).answer w').1 = ((g.perform r).answer (w'.viewed view)).1 ∧
      ((g'.perform r).answer w').2.viewed view = ((g.perform r).answer (w'.viewed view)).2 :=
  X.mirrors.perform_agree r (w'.viewed view) w' rfl

end Extends

end Gateway

end InodeGateway
