import InodeGateway.Proofs.Backend.Faulty
import InodeGateway.Proofs.Gateway.Confinement
import InodeGateway.Proofs.Gateway.Stages
import InodeGateway.Proofs.Memory.Calm
import InodeGateway.Proofs.Memory.Tree

/-!
# What operations write

Two parts of the world are written to: the tree of the backend and the table of inodes.  Only
creations write into the tree, and all that they do to a node which is there already is to append to
its children.  Only requests that come across objects write into the table.

## Main definitions

* `Request.creates`, `Request.sights` — requests that may write into the tree, or into the table
* `Memory.Grows` — a tree in which nothing that was there is gone
* `Gateway.Footprint` — what requests may write

## Main statements

* `Gateway.Preserves.after`, `Gateway.Preserves.establish` — what every call keeps, every operation
  keeps, and so does opening a gateway
* `Gateway.leaves_perform` — requests that come across nothing leave the table as it is
* `Gateway.footprint_overTree` — whatever fails, requests over a tree in memory write nothing else
-/

namespace InodeGateway

variable {σ ι : Type}

/-- Requests that make an object. -/
def Request.creates : Request → Bool
  | .create _ _ _ _ _ => true
  | _ => false

/-- Requests that register the objects that they come across. -/
def Request.sights : Request → Bool
  | .create _ _ _ _ _ | .list _ | .lookup _ _ | .parentOf _ => true
  | _ => false

/-- The second node is the first one later on: children were appended, if anything changed, and the
time of the last change may be another one. -/
structure Node.Grows (node later : Node) : Prop where
  kind : later.kind = node.kind
  sizeBytes : later.sizeBytes = node.sizeBytes
  ownerName : later.ownerName = node.ownerName
  ownerZone : later.ownerZone = node.ownerZone
  createdAt : later.createdAt = node.createdAt
  children : node.children <+: later.children

namespace Node.Grows

variable {node middle later : Node}

theorem refl (node : Node) : node.Grows node := ⟨rfl, rfl, rfl, rfl, rfl, List.prefix_rfl⟩

theorem trans (h : node.Grows middle) (h' : middle.Grows later) : node.Grows later where
  kind := h'.kind.trans h.kind
  sizeBytes := h'.sizeBytes.trans h.sizeBytes
  ownerName := h'.ownerName.trans h.ownerName
  ownerZone := h'.ownerZone.trans h.ownerZone
  createdAt := h'.createdAt.trans h.createdAt
  children := h.children.trans h'.children

/-- A child is linked at the end, if at all. -/
theorem link (now : Instant) (p : Path) (node : Node) : node.Grows (Memory.link now p node) := by
  unfold Memory.link
  split
  · exact refl node
  · exact ⟨rfl, rfl, rfl, rfl, rfl, List.prefix_append _ _⟩

end Node.Grows

namespace Memory

variable {m middle later : Memory}

/-- The second backend is the first one later on: every node is still there, and nothing else
changed but the sessions. -/
structure Grows (m later : Memory) : Prop where
  nodes : ∀ p node, m.nodes.get? p = some node →
    ∃ after, later.nodes.get? p = some after ∧ node.Grows after
  /-- Permissions, wanted failures and all the rest are as they were. -/
  rest : later = { m with nodes := later.nodes, sessions := later.sessions }

namespace Grows

theorem refl (m : Memory) : m.Grows m := ⟨fun _ node hp => ⟨node, hp, .refl node⟩, rfl⟩

theorem trans (h : m.Grows middle) (h' : middle.Grows later) : m.Grows later where
  nodes p node hp := by
    obtain ⟨between, hbetween, grown⟩ := h.nodes p node hp
    obtain ⟨after, hafter, grown'⟩ := h'.nodes p between hbetween
    exact ⟨after, hafter, grown.trans grown'⟩
  rest := by
    calc later
      _ = { middle with nodes := later.nodes, sessions := later.sessions } := h'.rest
      _ = { m with nodes := later.nodes, sessions := later.sessions } := by rw [h.rest]

theorem withSessions (h : m.Grows later) (sessions : Sessions) :
    m.Grows { later with sessions := sessions } where
  nodes := h.nodes
  rest := by rw [h.rest]

/-- A node is written where there was none, so that its parent alone changes. -/
theorem insert {p : Path} (free : m.kindAt? p = none) (kind : Kind) (size : Num) (owner : Owner) :
    m.Grows (m.insert p kind size owner) where
  nodes r node hr := by
    have hne : r ≠ p := by
      rintro rfl
      rw [kindAt?, hr] at free
      cases free
    rw [get?_nodes_insert, if_neg hne, hr]
    split
    · exact ⟨_, rfl, .link m.now p node⟩
    · exact ⟨node, rfl, .refl node⟩
  rest := by
    unfold Memory.insert
    cases p.parent? <;> rfl

theorem create (s : Session) (text : String) (kind : Kind) (m : Memory) :
    m.Grows ((backend.create s text kind).answer m).2 := by
  rw [show backend.create s text kind = within s _ from rfl]
  rcases within_cases s _ m with h | h
  · rw [h]
    exact refl m
  · rw [h]
    cases Path.ofText text with
    | error r => exact refl m
    | ok p =>
      simp only [createNode]
      cases hp : m.admits p with
      | error f => exact refl m
      | ok _ => exact insert (admits_ok hp).1 kind 0 m.owner

end Grows

/-- Whether another backend differs in its sessions only does not depend on its sessions. -/
theorem Still.withSessions (h : Still m later) (sessions : Sessions) :
    Still m { later with sessions := sessions } := by
  rw [Still, h]

end Memory

namespace Gateway

/-- What every call keeps holds at every stage. -/
theorem Preserves.staged {g : Gateway σ} {P : σ → Prop} (kept : g.Preserves P) (spares : Bool) :
    g.Staged ⟨P, fun _ => P, fun _ _ => P, P, fun _ => P⟩ spares := by
  have leads : ∀ {α : Type} {c : Call σ α} {b : σ}, g.Makes c → P b →
      c.Leads b (fun _ => P) fun _ => P :=
    fun hc hb => ⟨fun _ _ => kept hc _ hb, fun _ _ => kept hc _ hb⟩
  exact {
    openSession := fun _ hb => leads .openSession hb
    work := fun hc hb => by
      cases hc with
      | permits right path => exact leads (.permits _ right path) hb
      | create path kind => exact leads (.create _ path kind) hb
      | list path => exact leads (.list _ path) hb
      | capacity hcapacity => exact leads (.capacity hcapacity _) hb
    stat := fun hb path => by simpa using leads (.stat _ path) hb
    identity := fun hb owner => leads (.identity owner) hb
    refuse := fun hb _ _ => hb
    release := fun hb => kept (.release _) _ hb
    fail := fun hb => kept (.release _) _ hb }

/-- What every call keeps, every operation keeps. -/
theorem Preserves.after {g : Gateway σ} {P : σ → Prop} (kept : g.Preserves P) {w : World σ}
    (hw : P w.backend) (r : Request) : P (g.after w r).backend := by
  -- At every stage the property is the same one, so that either end has it.
  have ends : Act.Triple (fun b t => P b ∧ t = w.inodes) (g.perform r) (fun _ b _ => P b)
      (fun _ b _ => P b) := by
    refine (Staged.perform_triple r (kept.staged r.spares) w.inodes).consequence
      (fun _ _ h => h) (fun _ b _ h => h.elim id id) ?_
    rintro e b _ ⟨f, -, ⟨-, h⟩ | ⟨x, h, -⟩⟩
    · exact h.elim id id
    · exact h
  exact ends.ends ⟨hw, rfl⟩

/-- What every call and every change keeps, every run keeps. -/
theorem Preserves.afterSteps {g : Gateway σ} {P : σ → Prop} (kept : g.Preserves P) {w : World σ}
    (hw : P w.backend) {steps : List (Step σ)} (hsteps : ∀ step ∈ steps, step.Respects P) :
    P (g.afterSteps w steps).backend := by
  induction steps generalizing w with
  | nil => exact hw
  | cons step rest ih =>
    obtain ⟨hstep, hrest⟩ := List.forall_mem_cons.mp hsteps
    refine ih ?_ hrest
    cases step with
    | request r => exact kept.after hw r
    | change f => exact hstep _ hw
    | plant h text => exact hw

/-- What every call keeps is kept while a gateway is opened, and the gateway makes the same calls
from then on. -/
theorem Preserves.establish {backend : Backend σ} {identities : Identity.Registry σ}
    {permissions : PermissionModel} {P : σ → Prop}
    (kept : ∀ rootPath, Preserves ⟨backend, identities, permissions, rootPath⟩ P) {root : String}
    {g : Gateway σ} {start w : World σ}
    (opens : (Gateway.establish backend identities permissions root).answer start = (.ok g, w))
    (hstart : P start.backend) :
    (g.backend = backend ∧ g.identities = identities) ∧ P w.backend := by
  have ends := Staged.establish_triple (fun rootPath => Preserves.staged (kept rootPath) false)
    (fun _ _ _ _ h => h) (fun _ _ _ h => h) root start hstart
  rwa [opens] at ends

section Table

variable (g : Gateway σ) (t : Inodes)

theorem resolve_leaves (h : Handle) : Act.Leaves t (resolve h : Act σ Path) :=
  .look fun _ _ ht => ⟨fun _ _ => ht, fun _ _ => ht⟩

theorem resolveAll_leaves (handles : List Handle) :
    Act.Leaves t (resolveAll handles : Act σ Unit) := by
  induction handles with
  | nil => exact .pure _
  | cons h rest ih => exact .bind (resolve_leaves t h) fun _ => ih

theorem check_leaves {α : Type} (r : Except Refusal α) :
    Act.Leaves t (Act.check r : Act σ α) :=
  .check fun _ _ ht => ⟨fun _ _ => ht, fun _ _ => ht⟩

theorem ofMetadata_leaves (h : Handle) (m : Metadata) :
    Act.Leaves t (Attributes.ofMetadata g.identities g.permissions h m) := by
  have asked : Act.Leaves t (Attributes.askUserId g.identities m) := by
    refine .bind (.explain (Act.Leaves.call _)) fun text => ?_
    cases text with
    | none => exact .fail fun _ _ ht => ht
    | some text => exact check_leaves t _
  exact .bind asked fun _ => .bind (.note _ _ _) fun _ => .pure _

theorem probe_leaves (s : Session) (path : String) (mask : Num) :
    Act.Leaves t (Access.probe g.backend s path mask) := by
  have asked : ∀ right, Act.Leaves t (Access.ask g.backend s path mask right) := by
    intro right
    unfold Access.ask
    split
    · exact .call _
    · exact .pure _
  refine .bind (asked .execute) fun _ => .bind (asked .write) fun write => ?_
  cases write with
  | true => exact .bind (.pure _) fun _ => .bind (.note _ _ _) fun _ => .pure _
  | false => exact .bind (asked .read) fun _ => .bind (.note _ _ _) fun _ => .pure _

/-- Requests that come across nothing leave the table as it is. -/
theorem leaves_perform (r : Request) (hr : r.sights = false) : Act.Leaves t (g.perform r) := by
  have ran : ∀ {α β : Type} {operation : Operation} {context : Journal.Fields} {f : α → β}
      {body : Act σ α}, Act.Leaves t body → Act.Leaves t (f <$> run operation context body) :=
    fun hbody => .map (run_triple (fun _ _ _ ht => ht) hbody)
  cases r with
  | getAttributes h =>
    refine ran (.bind (resolve_leaves t h) fun p => .withSession g.backend fun s => ?_)
    exact .bind (.call _) fun m => g.ofMetadata_leaves t h m
  | checkAccess h mask =>
    refine ran (.bind (check_leaves t _) fun _ => .bind (resolve_leaves t h) fun p => ?_)
    exact .explain (Act.Leaves.withSession g.backend fun s => g.probe_leaves t s _ _)
  | statistics => exact .map ((statistics_counts g t).strengthen_post fun _ _ _ h => h.1)
  | commit h => exact ran (.bind (resolve_leaves t h) fun _ => .pure _)
  | unoffered what =>
    exact ran (.bind (resolveAll_leaves t _) fun _ => .fail fun _ _ ht => ht)
  | create parent name kind owner mode => cases hr
  | list h => cases hr
  | lookup parent name => cases hr
  | parentOf h => cases hr

end Table

/-- What requests to a gateway over a tree in memory write. -/
structure Footprint (g : Gateway (Site Memory ι)) (w : World (Site Memory ι)) : Prop where
  /-- Only creations write into the tree. -/
  tree : ∀ r, r.creates = false →
    Memory.Still w.backend.storage (g.after w r).backend.storage
  /-- Only requests that come across objects write into the table. -/
  table : ∀ r, r.sights = false → (g.after w r).inodes = w.inodes
  /-- Telling the path of a handle writes nothing at all. -/
  resolve : ∀ h, ((Gateway.resolve h).answer w).2 = w
  /-- Nothing that is in the tree is ever removed or replaced. -/
  grows : ∀ requests, w.backend.storage.Grows (g.afterAll w requests).backend.storage

section OverTree

variable (pattern : Pattern) (identities : Identity.Registry ι) (permissions : PermissionModel)
  (rootPath : Path)

/-- A gateway over a tree in memory, in which objects are made in another way. -/
def makingBy (create : Session → String → Kind → Call Memory Unit) : Gateway (Site Memory ι) :=
  ⟨Backend.faulty pattern { Memory.backend with create := create }, identities.beside, permissions,
    rootPath⟩

/-- A call that may fail instead of being made keeps what it keeps when it is made. -/
theorem before_keeps {α : Type} {Q : σ → Prop} {target : Target} {path : Option String}
    {c : Call σ α} (hc : ∀ m, Q m → Q (c.answer m).2) (s : Site σ ι) (hs : Q s.storage) :
    Q ((Site.before pattern target path c).answer s).2.storage := by
  rw [Site.before, Call.answer_of]
  cases pattern s.calls target path with
  | some failure => exact hs
  | none => exact hc _ hs

/-- Sessions and looks keep whatever does not speak of sessions, so that creations alone have to be
seen to. -/
theorem preserves_making {Q : Memory → Prop} (create : Session → String → Kind → Call Memory Unit)
    (hsessions : ∀ m sessions, Q m → Q { m with sessions := sessions })
    (hcreate : ∀ s text kind m, Q m → Q ((create s text kind).answer m).2)
    (directory : Identity.Directory) :
    Preserves ⟨{ Memory.backend with create := create }, directory, permissions, rootPath⟩ Q := by
  intro α c hc m hm
  cases hc with
  | openSession => exact hsessions m _ hm
  | stat s text => exact (Memory.state_withinAt s text _ m).symm ▸ hm
  | permits s right text => exact (Memory.state_withinAt s text _ m).symm ▸ hm
  | create s text kind => exact hcreate s text kind m hm
  | list s text =>
    have same : ((Memory.backend.list s text).answer m).2 = m :=
      (Memory.within_cases s (fun m => (m.children text, m)) m).elim id (congrArg Prod.snd)
    exact same.symm ▸ hm
  | capacity hcapacity s =>
    cases hcapacity
    have same : ((Memory.spaceOf s).answer m).2 = m :=
      (Memory.within_cases s (fun m => (.ok m.space, m)) m).elim id (congrArg Prod.snd)
    exact same.symm ▸ hm
  | release s =>
    rw [show ({ Memory.backend with create := create } : Backend Memory).release s =
      Memory.release s from rfl, Memory.release, Call.answer_of]
    split
    · exact hm
    · split <;> exact hsessions _ _ hm
  | identity owner => exact hm

theorem preserves_makingBy {Q : Memory → Prop} (create : Session → String → Kind → Call Memory Unit)
    (hsessions : ∀ m sessions, Q m → Q { m with sessions := sessions })
    (hcreate : ∀ s text kind m, Q m → Q ((create s text kind).answer m).2) :
    (makingBy pattern identities permissions rootPath create).Preserves fun s => Q s.storage := by
  have kept : Preserves ⟨{ Memory.backend with create := create }, Identity.passthrough, permissions,
      rootPath⟩ Q := preserves_making permissions rootPath create hsessions hcreate _
  intro α c hc s hs
  cases hc with
  | openSession => exact before_keeps pattern (kept .openSession) s hs
  | stat s' text => exact before_keeps pattern (kept (.stat s' text)) s hs
  | permits s' right text => exact before_keeps pattern (kept (.permits s' right text)) s hs
  | create s' text kind => exact before_keeps pattern (kept (.create s' text kind)) s hs
  | list s' text => exact before_keeps pattern (kept (.list s' text)) s hs
  | capacity hcapacity s' =>
    cases hcapacity
    exact before_keeps pattern (kept (.capacity rfl s')) s hs
  | release s' =>
    have after : ((Site.afterwards pattern .release (Memory.release s')).answer s).2.storage =
        ((Memory.release s').answer s.storage).2 := Site.storage_afterwards _ _
    exact after ▸ kept (.release s') _ hs
  | identity owner => exact hs

/-- Requests that make nothing do not notice how objects are made. -/
theorem perform_makingBy (create : Session → String → Kind → Call Memory Unit) {r : Request}
    (hr : r.creates = false) :
    (makingBy pattern identities permissions rootPath create).perform r =
      Gateway.perform ⟨Memory.backend.faulty pattern, identities.beside, permissions, rootPath⟩
        r := by
  have told : ∀ s children,
      (makingBy pattern identities permissions rootPath create).entries s children =
        Gateway.entries ⟨Memory.backend.faulty pattern, identities.beside, permissions, rootPath⟩
          s children := by
    intro s children
    induction children with
    | nil => rfl
    | cons child rest ih =>
      simp only [entries, ih]
      rfl
  cases r with
  | create parent name kind owner mode => cases hr
  | list h =>
    simp only [perform, list, told]
    rfl
  | _ => rfl

/-- Whatever fails and whatever is asked, requests to a gateway over a tree in memory write nothing
but what they are made for: creations append to the tree, and requests that come across objects
write into the table. -/
theorem footprint_overTree (w : World (Site Memory ι)) :
    Footprint ⟨Memory.backend.faulty pattern, identities.beside, permissions, rootPath⟩ w where
  tree r hr := by
    -- Where nothing can be made, every call leaves the tree as it is.
    have kept : (makingBy pattern identities permissions rootPath fun _ _ _ => pure ()).Preserves
        fun s => Memory.Still w.backend.storage s.storage :=
      preserves_makingBy pattern identities permissions rootPath _
        (fun _ sessions h => h.withSessions sessions) fun _ _ _ _ h => h
    have still := kept.after (w := w) (Memory.Still.refl _) r
    rwa [Gateway.after, perform_makingBy pattern identities permissions rootPath _ hr] at still
  table r hr := (leaves_perform _ w.inodes r hr).ends (w := w) rfl
  resolve _ := rfl
  grows requests := by
    have kept : Preserves ⟨Memory.backend.faulty pattern, identities.beside, permissions, rootPath⟩
        fun s => w.backend.storage.Grows s.storage :=
      preserves_makingBy pattern identities permissions rootPath Memory.backend.create
        (fun _ sessions h => h.withSessions sessions)
        fun s text kind m h => h.trans (.create s text kind m)
    -- What is compared with stays the tree at the beginning, while the world moves on.
    have steps : ∀ v : World (Site Memory ι), w.backend.storage.Grows v.backend.storage →
        w.backend.storage.Grows (Gateway.afterAll ⟨Memory.backend.faulty pattern,
          identities.beside, permissions, rootPath⟩ v requests).backend.storage := by
      induction requests with
      | nil => exact fun _ h => h
      | cons r rest ih => exact fun v h => ih _ (kept.after h r)
    exact steps w (.refl _)

end OverTree

end Gateway

end InodeGateway
