import InodeGateway.Gateway.Request
import InodeGateway.Proofs.Failure
import InodeGateway.Proofs.World.Triple

/-!
# The stages of an operation

Every operation goes through the same stages: it looks at its arguments and at the table, opens at
most one session, works in it, releases it on every way out, and registers what it found.  What is
known of the backend at each stage is said once, for all calls; from it follows how every operation
ends.

## Main definitions

* `Gateway.Stages` — what holds of the backend at each stage
* `Gateway.Staged` — the calls of a gateway lead from stage to stage
* `Request.Reports` — the failure that an operation puts in the place of one in its session

## Main statements

* `Gateway.Staged.session_triple` — a session begins idle and ends when it was released
* `Gateway.Staged.perform_triple` — the ends of every operation
* `Gateway.Staged.establish_triple` — the ends of opening a gateway
-/

namespace InodeGateway

/-- Requests of which the backend may forget an object meanwhile: a child that is gone is left out
of a list. -/
def Request.spares : Request → Bool
  | .list _ => true
  | _ => false

/-- The failure `f` is what an operation makes of the failure `x` within its session.  Whatever
keeps the backend from answering about access, the check has failed, at the path that the handle
has in the table; all other operations pass failures on. -/
def Request.Reports (t : Inodes) (r : Request) (x f : Failure) : Prop :=
  match r with
  | .checkAccess h _ =>
    ∃ p, Gateway.pathFor t h = .ok p ∧ f = (Refusal.accessCheck p.toText).because x
  | _ => f = x

/-- The calls of a backend within a session, descriptions of objects left aside. -/
inductive Backend.Works {σ : Type} (b : Backend σ) (s : Session) : {α : Type} → Call σ α → Prop
  | permits (right : Right) (path : String) : Works b s (b.permits s right path)
  | create (path : String) (kind : Kind) : Works b s (b.create s path kind)
  | list (path : String) : Works b s (b.list s path)
  | capacity {space : Session → Call σ Capacity} (h : b.capacity = some space) :
      Works b s (space s)

namespace Gateway

variable {σ : Type}

/-- What holds of the backend at each stage of an operation. -/
structure Stages (σ : Type) where
  /-- No call was made yet. -/
  idle : σ → Prop
  /-- The session is open. -/
  busy : Session → σ → Prop
  /-- The session is open, and what was done in it has failed. -/
  failing : Session → Failure → σ → Prop
  /-- The session was released. -/
  done : σ → Prop
  /-- The session was released after a failure, or it could not be opened. -/
  failed : Failure → σ → Prop

/-- The calls of a gateway lead from stage to stage.  If missing objects are spared, the failure to
describe one does not end the work in the session. -/
structure Staged (g : Gateway σ) (S : Stages σ) (spares : Bool) : Prop where
  openSession : ∀ b, S.idle b → g.backend.openSession.Leads b S.busy S.failed
  work : ∀ {α : Type} {c : Call σ α} {s b}, g.backend.Works s c → S.busy s b →
    c.Leads b (fun _ => S.busy s) (S.failing s)
  stat : ∀ {s b}, S.busy s b → ∀ path, (g.backend.stat s path).Leads b (fun _ => S.busy s)
    fun f b' => if spares ∧ f.isMissing then S.busy s b' else S.failing s f b'
  identity : ∀ {s b}, S.busy s b → ∀ owner, (g.identities.resolve owner).Leads b
    (fun _ => S.busy s) fun f => S.failing s ((Refusal.identityLookup owner).because f)
  refuse : ∀ {s b}, S.busy s b → ∀ {f : Failure}, f.IsOwn → S.failing s f b
  release : ∀ {s b}, S.busy s b → S.done ((g.backend.release s).answer b).2
  fail : ∀ {s f b}, S.failing s f b → S.failed f ((g.backend.release s).answer b).2

namespace Stages

/-- The failure of the operation before it is put into the gateway's terms: a refusal outside of the
session, or what is made of a failure within it. -/
def Ends (S : Stages σ) (t : Inodes) (r : Request) (f : Failure) (b : σ) : Prop :=
  (f.IsOwn ∧ (S.idle b ∨ S.done b)) ∨ ∃ x, S.failed x b ∧ r.Reports t x f

/-- The failure that an operation reports. -/
def Reported (S : Stages σ) (t : Inodes) (r : Request) (e : Failure) (b : σ) : Prop :=
  ∃ f, e = restate f ∧ S.Ends t r f b

end Stages

/-- What is done in the session leaves it busy, unless it fails. -/
abbrev Stages.Working {α : Type} (S : Stages σ) (s : Session) (a : Act σ α) : Prop :=
  Act.Triple (fun b _ => S.busy s b) a (fun _ b _ => S.busy s b) (fun e b _ => S.failing s e b)

/-- What is done without the backend leaves it as it is, and fails with a failure of the gateway's
own. -/
abbrev Aside {α : Type} (P : σ → Prop) (a : Act σ α) : Prop :=
  Act.Triple (fun b _ => P b) a (fun _ b _ => P b) (fun e b _ => e.IsOwn ∧ P b)

/-- A failed operation reports its failure in the gateway's terms. -/
theorem run_restates {α : Type} {operation : Operation} {context : Journal.Fields} {body : Act σ α}
    {pre : Assertion σ} {post : α → Assertion σ} {fails : Failure → Assertion σ}
    (hbody : Act.Triple pre body post fails) :
    Act.Triple pre (run operation context body) post
      (fun e b t => ∃ f, e = restate f ∧ fails f b t) := by
  have restated : Act.Triple pre body post
      (fun f b t => (∃ f', restate f = restate f' ∧ fails f' b t)) :=
    hbody.weaken_fails fun f _ _ h => ⟨f, rfl, h⟩
  intro w hw
  have ends := restated w hw
  rw [run, Call.answer_of]
  rcases heq : body.answer w with ⟨f | x, after⟩ <;> rw [heq] at ends <;> exact ends

/-- A sighting fails with a failure of the gateway's own. -/
theorem isOwn_collision {f : Failure} (hf : f.IsOwn) : (collision f).IsOwn := by
  unfold collision
  split
  · exact hf.because _ _ _
  · exact hf

namespace Aside

variable {α : Type} {P : σ → Prop}

theorem table (f : Inodes → Except Refusal α × Inodes) : Aside P (Act.table f) :=
  Act.Triple.table fun _ _ hb => ⟨fun _ _ => hb, fun r _ => ⟨r.isOwn_failure, hb⟩⟩

theorem check (r : Except Refusal α) : Aside P (Act.check r) :=
  Act.Triple.check fun _ _ hb => ⟨fun _ _ => hb, fun r _ => ⟨r.isOwn_failure, hb⟩⟩

theorem sighting (f : Inodes → Except Refusal α × Inodes) :
    Aside P ((Act.table f).explain collision) :=
  .explain ((table f).weaken_fails fun _ _ _ ⟨hf, hb⟩ => ⟨isOwn_collision hf, hb⟩)

theorem parentHandle (g : Gateway σ) (p : Path) : Aside P (g.parentHandle p) := by
  unfold Gateway.parentHandle
  split
  · exact .pure fun _ _ h => h
  · cases p.parent? with
    | none => exact .pure fun _ _ h => h
    | some q =>
      simp only
      split
      · exact sighting _
      · exact .pure fun _ _ h => h

theorem resolve (h : Handle) : Aside P (Gateway.resolve h) :=
  table fun t => (pathFor t h, t)

theorem resolveAll (handles : List Handle) : Aside P (Gateway.resolveAll handles) := by
  induction handles with
  | nil => exact .pure fun _ _ h => h
  | cons h rest ih => exact .bind (resolve h) fun _ => ih

end Aside

namespace Staged

variable {g : Gateway σ} {S : Stages σ} {spares : Bool} {α : Type}

section Session

variable (C : g.Staged S spares)
include C

/-- What is refused within the session ends the work in it. -/
theorem aside_working {a : Act σ α} {s : Session} (ha : Aside (S.busy s) a) : S.Working s a :=
  ha.weaken_fails fun _ _ _ ⟨hf, hb⟩ => C.refuse hb hf

theorem work_working {c : Call σ α} {s : Session} (hc : g.backend.Works s c) :
    S.Working s (Act.call c) :=
  Act.Triple.leads fun _ hb => C.work hc hb

/-- A session is opened, worked in and released, whatever happens in it. -/
theorem session_triple {body : Session → Act σ α} (hbody : ∀ s, S.Working s (body s)) :
    Act.Triple (fun b _ => S.idle b) (Act.withSession g.backend body) (fun _ b _ => S.done b)
      (fun e b _ => S.failed e b) :=
  .withSession (Act.Triple.leads C.openSession) hbody (fun _ _ _ _ hb => C.release hb)
    fun _ _ _ _ hb => C.fail hb

theorem ofMetadata_working (s : Session) (h : Handle) (m : Metadata) :
    S.Working s (Attributes.ofMetadata g.identities g.permissions h m) := by
  have asked : S.Working s (Attributes.askUserId g.identities m) := by
    refine .bind (.explain (Act.Triple.leads fun _ hb => C.identity hb _)) fun text => ?_
    cases text with
    | none => exact .fail fun _ _ hb => C.refuse hb (Refusal.isOwn_failure _)
    | some text => exact C.aside_working (.check _)
  exact .bind asked fun _ => .bind (.note _ _ _) fun _ => .pure fun _ _ hb => hb

theorem probe_working (s : Session) (path : String) (mask : Num) :
    S.Working s (Access.probe g.backend s path mask) := by
  have asked : ∀ right, S.Working s (Access.ask g.backend s path mask right) := by
    intro right
    unfold Access.ask
    split
    · exact C.work_working (.permits right path)
    · exact .pure fun _ _ hb => hb
  have noted : ∀ bits fields, S.Working s
      (do Act.note .debug Access.probedMessage fields; pure bits : Act σ Nat) :=
    fun _ _ => .bind (.note _ _ _) fun _ => .pure fun _ _ hb => hb
  refine .bind (asked .execute) fun _ => .bind (asked .write) fun write => ?_
  cases write with
  | true => exact .bind (.pure fun _ _ hb => hb) fun _ => noted _ _
  | false => exact .bind (asked .read) fun _ => noted _ _

theorem space_working (s : Session) : S.Working s (g.space s) := by
  unfold Gateway.space
  cases hcapacity : g.backend.capacity with
  | none => exact .pure fun _ _ hb => hb
  | some capacity => exact C.work_working (.capacity hcapacity)

end Session

/-- If nothing is spared, a failure to describe an object ends the work in the session. -/
theorem stat_working (C : g.Staged S false) (s : Session) (path : String) :
    S.Working s (Act.call (g.backend.stat s path)) := by
  refine (Act.Triple.leads fun _ hb => C.stat hb path).weaken_fails ?_
  intro f b _ hb
  rwa [if_neg (by simp)] at hb

/-- The entries of children: the work goes on after each of them, whether it is there or gone. -/
theorem entries_working (C : g.Staged S true) (s : Session) (children : List String) :
    S.Working s (g.entries s children) := by
  have looked : ∀ child, S.Working s (g.statOptional s child) := by
    intro child
    have described := Act.Triple.leads fun b (hb : S.busy s b) => C.stat hb child
    refine .orMissing (.map described) (fun f b t hf hb => ?_) fun f b t hf hb => ?_
    · rwa [if_pos ⟨rfl, hf⟩] at hb
    · rwa [if_neg fun h => hf h.2] at hb
  induction children with
  | nil => exact .pure fun _ _ hb => hb
  | cons child rest ih =>
    refine .bind (looked child) fun described => ?_
    cases described with
    | none => exact .bind (.note _ _ _) fun _ => ih
    | some m =>
      refine .bind (C.aside_working (.sighting _)) fun h => ?_
      refine .bind (C.aside_working (.check _)) fun name => ?_
      exact .bind (C.ofMetadata_working s h m) fun _ => .bind ih fun _ => .pure fun _ _ hb => hb

section Operations

variable {t : Inodes} {r : Request} {β : Type}

/-- What an operation does ends idle or done, or with a failure that the operation accounts for. -/
abbrev Serves (S : Stages σ) (t : Inodes) (r : Request) (a : Act σ α) : Prop :=
  Act.Triple (fun b _ => S.idle b) a (fun _ b _ => S.idle b ∨ S.done b)
    (fun f b _ => S.Ends t r f b)

/-- Before the session, steps are taken without the backend. -/
theorem serves_first {a : Act σ α} {k : α → Act σ β} (ha : Aside S.idle a)
    (hk : ∀ x, Serves S t r (k x)) : Serves S t r (a >>= k) :=
  .bind (ha.weaken_fails fun _ _ _ ⟨hf, hb⟩ => .inl ⟨hf, .inl hb⟩) hk

/-- Some operations need no session. -/
theorem serves_idle {a : Act σ α} (ha : Aside S.idle a) : Serves S t r a :=
  ha.consequence (fun _ _ h => h) (fun _ _ _ hb => .inl hb) fun _ _ _ ⟨hf, hb⟩ =>
    .inl ⟨hf, .inl hb⟩

variable (C : g.Staged S spares)
include C

/-- After the session, steps are taken without the backend. -/
theorem serves_session {body : Session → Act σ α} {k : α → Act σ β}
    (hreports : ∀ x, r.Reports t x x) (hbody : ∀ s, S.Working s (body s))
    (hk : ∀ x, Aside S.done (k x)) : Serves S t r (Act.withSession g.backend body >>= k) := by
  refine .bind ((C.session_triple hbody).weaken_fails ?_)
    fun x => (hk x).consequence (fun _ _ h => h) (fun _ _ _ hb => .inr hb) ?_
  · exact fun f _ _ hb => .inr ⟨f, hb, hreports f⟩
  · exact fun _ _ _ ⟨hf, hb⟩ => .inl ⟨hf, .inr hb⟩

/-- Most operations end with their session. -/
theorem serves_last {body : Session → Act σ α} (hreports : ∀ x, r.Reports t x x)
    (hbody : ∀ s, S.Working s (body s)) : Serves S t r (Act.withSession g.backend body) := by
  have ends := serves_session (k := pure) C hreports hbody fun _ => .pure fun _ _ hb => hb
  rwa [bind_pure] at ends

end Operations

/-- A failed check of access tells the path that the handle had when the check began. -/
theorem checkAccess_triple (C : g.Staged S false) (t₀ : Inodes) (h : Handle) (mask : Num) :
    Act.Triple (fun b t => S.idle b ∧ t = t₀) (g.checkAccess h mask)
      (fun _ b _ => S.idle b ∨ S.done b)
      (fun e b _ => S.Reported t₀ (.checkAccess h mask) e b) := by
  have checked : Act.Triple (fun b t => S.idle b ∧ t = t₀) (Act.check (Mode.check .mask mask))
      (fun _ b t => S.idle b ∧ t = t₀) (fun f b _ => S.Ends t₀ (.checkAccess h mask) f b) :=
    .check fun _ _ hb => ⟨fun _ _ => hb, fun e _ => .inl ⟨e.isOwn_failure, .inl hb.1⟩⟩
  have resolved : Act.Triple (fun b t => S.idle b ∧ t = t₀) (Gateway.resolve h)
      (fun p b _ => S.idle b ∧ pathFor t₀ h = .ok p)
      (fun f b _ => S.Ends t₀ (.checkAccess h mask) f b) :=
    .look fun _ _ ⟨hb, ht⟩ => ⟨fun _ hp => ⟨hb, ht ▸ hp⟩,
      fun e _ => .inl ⟨e.isOwn_failure, .inl hb⟩⟩
  refine run_restates (.bind checked fun _ => .bind resolved fun p => .assuming fun hp => ?_)
  have probed := C.session_triple fun s =>
    C.probe_working s p.toText (Num.ofNat (mask.low32 &&& Mode.user))
  refine .explain (probed.consequence (fun _ _ h => h) (fun _ _ _ hb => .inr hb) ?_)
  exact fun x _ _ hb => .inr ⟨x, hb, p, hp, rfl⟩

theorem list_triple (C : g.Staged S true) (t₀ : Inodes) (h : Handle) :
    Act.Triple (fun b _ => S.idle b) (g.list h) (fun _ b _ => S.idle b ∨ S.done b)
      (fun e b _ => S.Reported t₀ (.list h) e b) := by
  refine run_restates (serves_first (.resolve h) fun p => C.serves_last (fun _ => rfl) fun s => ?_)
  exact .bind (C.work_working (.list p.toText)) fun children => C.entries_working s children

/-- Every operation ends idle or done, and reports its failure. -/
theorem perform_triple (r : Request) (C : g.Staged S r.spares) (t₀ : Inodes) :
    Act.Triple (fun b t => S.idle b ∧ t = t₀) (g.perform r) (fun _ b _ => S.idle b ∨ S.done b)
      (fun e b _ => S.Reported t₀ r e b) := by
  -- Only the check of access tells of the table that it began with.
  cases r with
  | checkAccess h mask => exact .map (checkAccess_triple C t₀ h mask)
  | list h => exact .weaken_pre (.map (list_triple C t₀ h)) fun _ _ hb => hb.1
  | getAttributes h =>
    refine .weaken_pre (.map (run_restates (serves_first (.resolve h) fun p => ?_)))
      fun _ _ hb => hb.1
    refine C.serves_last (fun _ => rfl) fun s => ?_
    exact .bind (stat_working C s _) fun m => C.ofMetadata_working s h m
  | create parent name kind owner mode =>
    refine .weaken_pre (.map (run_restates (serves_first (.check _) fun wanted => ?_)))
      fun _ _ hb => hb.1
    refine serves_first (.table _) fun p => serves_first (.note _ _ _) fun _ => ?_
    refine C.serves_session (fun _ => rfl) (fun s => C.work_working (.create _ _)) fun _ => ?_
    refine .bind (Aside.sighting _) fun _ => .bind (.note _ _ _) fun _ => ?_
    exact .bind (.note _ _ _) fun _ => .pure fun _ _ hb => hb
  | lookup parent name =>
    refine .weaken_pre (.map (run_restates (serves_first (.resolve parent) fun p => ?_)))
      fun _ _ hb => hb.1
    -- Only a name that is neither of the two references needs the backend.
    split
    · exact serves_idle (.pure fun _ _ hb => hb)
    · split
      · exact serves_idle (.parentHandle g p)
      · refine serves_first (.check _) fun n => ?_
        exact C.serves_session (fun _ => rfl) (fun s => stat_working C s _) fun _ => .sighting _
  | parentOf h =>
    refine .weaken_pre (.map (run_restates (serves_first (.resolve h) fun p => ?_)))
      fun _ _ hb => hb.1
    exact serves_idle (.parentHandle g p)
  | statistics =>
    refine .weaken_pre (.map (run_restates ?_)) fun _ _ hb => hb.1
    exact C.serves_session (fun _ => rfl) C.space_working fun _ =>
      .bind (Aside.table fun t => (.ok t.size, t)) fun _ => .pure fun _ _ hb => hb
  | commit h =>
    refine .weaken_pre (.map (run_restates (serves_first (.resolve h) fun _ => ?_)))
      fun _ _ hb => hb.1
    exact serves_idle (.pure fun _ _ hb => hb)
  | unoffered what =>
    refine .weaken_pre (.map (run_restates (serves_idle (.bind (Aside.resolveAll _) fun _ => ?_))))
      fun _ _ hb => hb.1
    exact .fail fun _ _ hb => ⟨Refusal.isOwn_failure _, hb⟩

/-- Opening a gateway ends as an operation does; its calls are those of the gateway that it opens.
A root that is missing does not end the work in the session, and what fails there is put into the
gateway's terms. -/
theorem establish_triple {backend : Backend σ} {identities : Identity.Registry σ}
    {permissions : PermissionModel}
    (C : ∀ rootPath, Staged ⟨backend, identities, permissions, rootPath⟩ S false)
    (hmissing : ∀ s f b, f.isMissing → S.failing s f b → S.busy s b)
    (hrestate : ∀ s f b, S.failing s f b → S.failing s (restate f) b) (root : String) :
    Act.Triple (fun b _ => S.idle b) (establish backend identities permissions root)
      (fun g b _ => (g.backend = backend ∧ g.identities = identities) ∧ S.done b)
      (fun f b _ => (f.IsOwn ∧ (S.idle b ∨ S.done b)) ∨ S.failed f b) := by
  have before : ∀ {α : Type} {a : Act σ α}, Aside S.idle a →
      Act.Triple (fun b _ => S.idle b) a (fun _ b _ => S.idle b)
        (fun f b _ => (f.IsOwn ∧ (S.idle b ∨ S.done b)) ∨ S.failed f b) :=
    fun ha => ha.weaken_fails fun _ _ _ ⟨hf, hb⟩ => .inl ⟨hf, .inl hb⟩
  have after : ∀ {α : Type} {a : Act σ α}, Aside S.done a →
      Act.Triple (fun b _ => S.done b) a (fun _ b _ => S.done b)
        (fun f b _ => (f.IsOwn ∧ (S.idle b ∨ S.done b)) ∨ S.failed f b) :=
    fun ha => ha.weaken_fails fun _ _ _ ⟨hf, hb⟩ => .inl ⟨hf, .inr hb⟩
  refine .bind (before (.check _)) fun p => .bind (before (.note _ _ _)) fun _ => ?_
  have readable : ∀ s, S.Working s (rootReadable ⟨backend, identities, permissions, p⟩ s) := by
    intro s
    have looked : S.Working s (do
        let _ ← Act.call (backend.stat s p.toText)
        Act.call (backend.permits s .read p.toText)) :=
      .bind (stat_working (C p) s _) fun _ => (C p).work_working (.permits .read p.toText)
    refine .explain (.orMissing looked (fun f b _ hf hb => hmissing s f b hf hb) ?_)
    exact fun f b _ _ hb => hrestate s f b hb
  refine .bind (((C p).session_triple readable).weaken_fails fun _ _ _ hb => .inr hb)
    fun found => ?_
  cases found with
  | true => exact .bind (after (.table _)) fun _ => .pure fun _ _ hb => ⟨⟨rfl, rfl⟩, hb⟩
  | false => exact .fail fun _ _ hb => .inl ⟨Refusal.isOwn_failure _, .inr hb⟩

end Staged

end Gateway

end InodeGateway
