import InodeGateway.Proofs.Gateway.Ascent
import InodeGateway.Proofs.Gateway.Making
import InodeGateway.Proofs.Inodes.Bijection

/-!
# Collisions on fresh handles

Where pairs were written straight into the table, a fresh handle may turn out to be occupied.  The
operation that drew it fails and says that the table is broken; the table is as it was, and the next
attempt draws the next handle.  So repeated attempts get past the occupied handles.  An object that
was made before its handle was drawn is there all the same, and a lookup gives it its handle later.

## Main definitions

* `Gateway.Collided` — a request that drew an occupied handle
* `Backend.Describes` — an object that can be described again and again
* `Gateway.Passes` — lookups that get past the occupied handles
* `Gateway.Contained` — what becomes of collisions, over any backend
* `Gateway.HalfMade` — what becomes of a creation that drew an occupied handle

## Main statements

* `Gateway.passes` — repeated lookups, by induction on the number of occupied handles
* `Gateway.thrown_of_alreadyMapped` — that something is mapped already is reported only if the
  backend threw it
* `Gateway.collisions_contained` — so it is in every state of an open gateway
-/

namespace InodeGateway

variable {σ : Type}

/-- In states of this kind a session can describe the object at a path, and it leaves such a
state. -/
def Backend.Describes (b : Backend σ) (text : String) (P : σ → Prop) : Prop :=
  ∀ x, P x → ∃ s y m z, b.openSession.answer x = (.ok s, y) ∧
    (b.stat s text).answer y = (.ok m, z) ∧ P ((b.release s).answer z).2

/-- The failure that a call of the backend threw. -/
def Exchange.thrown? : Exchange → Option Failure
  | .notOpened f => some f
  | .worked _ _ thrown | .released _ thrown => thrown
  | .opened _ | .asked _ _ => none

namespace Gateway

variable {g : Gateway σ} {w : World σ} {parent : Handle} {q c : Path} {n : Name} {name : String}
  {P : σ → Prop} {k : Nat} {T : Inodes}

/-! ### What a collision leaves -/

/-- The request drew an occupied handle: it fails, which is noted once, as a broken table, and
nothing in the table but the counter has moved. -/
structure Collided (g : Gateway σ) (w : World σ) (r : Request) : Prop where
  /-- The failure is noted as fatal, as the last record, and no other record is. -/
  fails : ∃ e, ((g.perform r).answer w).1 = .error e ∧ e.code? = some .internalInconsistency ∧
    ∃ incidental record, (g.after w r).journal = w.journal ++ incidental ++ [record] ∧
      (∀ other ∈ incidental, other.level ≠ .fatal) ∧
      record.level = .fatal ∧ ("err", (e : Journal.Field)) ∈ record.fields
  table : (g.after w r).inodes = { w.inodes with last := w.inodes.last + 1 }

/-- A request that says that the table is broken notes it so. -/
theorem Collided.of_error {r : Request} {e : Failure}
    (he : ((g.perform r).answer w).1 = .error e) (hcode : e.code? = some .internalInconsistency)
    (table : (g.after w r).inodes = w.inodes.draw.2) : g.Collided w r := by
  refine ⟨⟨e, he, hcode, ?_⟩, table⟩
  obtain ⟨incidental, hincidental, concluded⟩ := g.perform_concludes r w
  rw [he] at concluded
  obtain ⟨code, _, _, record, hfault, closes, hjournal, -⟩ := concluded
  obtain rfl := Option.some.inj (hcode.symm.trans (Failure.code?_of_fault hfault))
  refine ⟨incidental, record, hjournal, fun other hother => (hincidental other hother).2.1,
    closes.level, closes.shown.resolve_right ?_⟩
  rintro ⟨hseverity, -⟩
  cases hseverity

/-! ### Lookups -/

/-- A lookup of an object that can be described sights its path. -/
theorem lookup_sights (resolved : pathFor T parent = .ok q) (hname : Name.ofText name = .ok n)
    (describes : g.backend.Describes (q.child n).toText P) :
    Act.Triple (fun b t => P b ∧ t = T) (g.lookup parent name)
      (fun h b t => P b ∧ T.sightPath (q.child n) = (.ok h, t))
      fun e b t => ∃ f, e = restate f ∧ P b ∧
        ∃ r : Refusal, f = collision r.failure ∧ T.sightPath (q.child n) = (.error r, t) := by
  obtain ⟨-, hdot, hdots, -⟩ := Name.ofText_eq_ok_iff.mp ⟨n, hname⟩
  refine run_restates (.bind (M := fun p b t => (P b ∧ t = T) ∧ p = q) (.look ?_) fun p =>
    .assuming fun hp => ?_)
  · rintro b _ ⟨hb, rfl⟩
    rw [resolved]
    exact ⟨fun p hp => ⟨⟨hb, rfl⟩, (Except.ok.inj hp).symm⟩, nofun⟩
  subst hp
  rw [if_neg hdot, if_neg hdots]
  refine .check_bind hname (.bind (M := fun _ b t => P b ∧ t = T) ?_ fun _ =>
    .explain (.table ?_))
  · -- A session is opened, the object is described, and the session is released.
    have opened : Act.Triple (fun b t => P b ∧ t = T) (Act.call g.backend.openSession)
        (fun s b t => t = T ∧ ∃ m z, (g.backend.stat s (p.child n).toText).answer b = (.ok m, z) ∧
          P ((g.backend.release s).answer z).2) fun _ _ _ => False := by
      refine .call_ok ?_
      rintro b t ⟨hb, ht⟩
      obtain ⟨s, y, m, z, hopen, hstat, hz⟩ := describes b hb
      exact ⟨s, y, hopen, ht, m, z, hstat, hz⟩
    have described : ∀ s, Act.Triple (fun b t => t = T ∧ ∃ m z,
          (g.backend.stat s (p.child n).toText).answer b = (.ok m, z) ∧
            P ((g.backend.release s).answer z).2)
        (Act.call (g.backend.stat s (p.child n).toText))
        (fun _ b t => P ((g.backend.release s).answer b).2 ∧ t = T) fun _ _ _ => False := by
      refine fun s => .call_ok ?_
      rintro b t ⟨ht, m, z, hstat, hz⟩
      exact ⟨m, z, hstat, hz, ht⟩
    exact .withSession (opened.weaken_fails fun _ _ _ h => h.elim) described (fun _ _ _ _ hb => hb)
      fun _ _ _ _ hb => hb.elim
  · rintro b _ ⟨hb, rfl⟩
    refine ⟨fun h hh => ⟨hb, Prod.ext hh rfl⟩, fun r hr => ⟨hb, r, rfl, Prod.ext hr rfl⟩⟩

/-- What a lookup of an object that can be described is answered, and the table that it leaves, are
those of the sighting. -/
theorem answer_lookup (resolved : pathFor w.inodes parent = .ok q)
    (hname : Name.ofText name = .ok n) (describes : g.backend.Describes (q.child n).toText P)
    (hP : P w.backend) :
    ((g.perform (.lookup parent name)).answer w).1 = (match (w.inodes.sightPath (q.child n)).1 with
      | .ok h => .ok (.handle h)
      | .error r => .error (restate (collision r.failure))) ∧
    (g.after w (.lookup parent name)).inodes = (w.inodes.sightPath (q.child n)).2 ∧
    P (g.after w (.lookup parent name)).backend := by
  have performs : (g.perform (.lookup parent name)).answer w =
      (((g.lookup parent name).answer w).1.map .handle, ((g.lookup parent name).answer w).2) :=
    Call.answer_map _ _ _
  rw [after, performs]
  rcases (lookup_sights resolved hname describes).outcome ⟨hP, rfl⟩ with
    ⟨h, hh, hv, hsight⟩ | ⟨_, he, f, rfl, hv, r, rfl, hsight⟩
  · rw [hh, hsight]
    exact ⟨rfl, rfl, hv⟩
  · rw [he, hsight]
    exact ⟨rfl, rfl, hv⟩

/-- Repeated lookups of a name get past `k` occupied handles: so many fail, one after another, and
the next one gives the handle after them. -/
structure Passes (g : Gateway σ) (w : World σ) (parent : Handle) (name : String) (c : Path)
    (k : Nat) : Prop where
  collide : ∀ i < k, g.Collided (g.afterAll w (List.replicate i (.lookup parent name)))
    (.lookup parent name)
  /-- The lookup after them is answered, and adds its pair at the end. -/
  passes :
    let v := g.afterAll w (List.replicate k (.lookup parent name))
    ((g.perform (.lookup parent name)).answer v).1 =
        .ok (.handle (w.inodes.last + (k : Handle) + 1)) ∧
      (g.after v (.lookup parent name)).inodes.entries =
        w.inodes.entries ++ [(w.inodes.last + (k : Handle) + 1, c)] ∧
      (g.after v (.lookup parent name)).inodes.last = w.inodes.last + (k : Handle) + 1

/-- One lookup that collides, and those after it. -/
theorem Passes.succ (collided : g.Collided w (.lookup parent name))
    (rest : g.Passes (g.after w (.lookup parent name)) parent name c k) :
    g.Passes w parent name c (k + 1) := by
  refine ⟨fun i hi => ?_, ?_⟩
  · cases i with
    | zero => exact collided
    | succ i => exact rest.collide i (Nat.lt_of_succ_lt_succ hi)
  · have entries : (g.after w (.lookup parent name)).inodes.entries = w.inodes.entries := by
      rw [collided.table]
      rfl
    have last : (g.after w (.lookup parent name)).inodes.last + (k : Handle) =
        w.inodes.last + ((k + 1 : Nat) : Handle) := by
      rw [collided.table]
      exact Inodes.add_one_add w.inodes.last k
    have passes := rest.passes
    rw [entries, last] at passes
    exact passes

section Lookups

variable (ht : w.inodes.RootedAt g.rootPath) (resolved : pathFor w.inodes parent = .ok q)
  (hname : Name.ofText name = .ok n) (unseen : ∀ h, (h, q.child n) ∉ w.inodes.entries)
  (describes : g.backend.Describes (q.child n).toText P) (hP : P w.backend)
include ht resolved hname unseen describes hP

/-- A lookup that draws an occupied handle moves the counter by one, and no more. -/
theorem lookup_collides (occupied : w.inodes.Registered (w.inodes.last + 1)) :
    g.Collided w (.lookup parent name) ∧ P (g.after w (.lookup parent name)).backend := by
  obtain ⟨old, collides⟩ := ht.sightPath_collides ⟨unseen, occupied⟩
  obtain ⟨answered, table, hP'⟩ := answer_lookup resolved hname describes hP
  rw [collides] at answered table
  exact ⟨.of_error answered (code?_collision_handleMapped _ _) table, hP'⟩

/-- A lookup that draws a free handle is answered with it. -/
theorem lookup_passes (free : ¬ w.inodes.Registered (w.inodes.last + 1)) :
    ((g.perform (.lookup parent name)).answer w).1 = .ok (.handle (w.inodes.last + 1)) ∧
      (g.after w (.lookup parent name)).inodes =
        w.inodes.draw.2.add (w.inodes.last + 1) (q.child n) := by
  obtain ⟨answered, table, -⟩ := answer_lookup resolved hname describes hP
  rw [ht.sightPath_new unseen free] at answered table
  exact ⟨answered, table⟩

/-- Repeated lookups of an object that can be described, by induction on the number of occupied
handles that come next. -/
theorem passes (ahead : w.inodes.Ahead k) : g.Passes w parent name (q.child n) k := by
  induction k generalizing w with
  | zero =>
    obtain ⟨answered, table⟩ :=
      lookup_passes ht resolved hname unseen describes hP ahead.next_free
    have free := ht.draw.coherent.get?_eq_none_iff.mpr ahead.next_free
    have zero : w.inodes.last + ((0 : Nat) : Handle) = w.inodes.last := Int.add_zero _
    refine ⟨fun i hi => absurd hi (Nat.not_lt_zero i), ?_⟩
    rw [zero]
    exact ⟨answered, (congrArg Inodes.entries table).trans (Inodes.entries_add free),
      congrArg Inodes.last table⟩
  | succ k ih =>
    obtain ⟨collided, hP'⟩ := lookup_collides ht resolved hname unseen describes hP
      (ahead.collides unseen).occupied
    -- The table is the same but for the counter, so that all that was known of it still holds.
    have table : (g.after w (.lookup parent name)).inodes = w.inodes.draw.2 := collided.table
    refine .succ collided (ih ?_ ?_ ?_ hP' ?_)
    · rw [table]
      exact ht.draw
    · rw [table]
      exact resolved
    · rw [table]
      exact unseen
    · rw [table]
      exact ahead.draw

end Lookups

/-! ### What is reported as mapped already -/

/-- What sightings are refused for is put as a broken table. -/
theorem code?_collision_ne (r : Refusal) : (collision r.failure).code? ≠ some .alreadyMapped := by
  unfold collision
  split
  · exact nofun
  · next other => simpa [Failure.hasCode] using other

/-- The exchange was one in which this was thrown, by the backend or by the registry. -/
def Throws (f : Failure) (exchange : Exchange) : Prop :=
  exchange.thrown? = some f ∨ ∃ owner, exchange = .asked owner (some f)

/-- A followed call that fails is written down with its failure. -/
theorem Makes.followed {α : Type} {c : Call (σ × List Exchange) α} (hc : g.followed.Makes c) :
    ∃ (c₀ : Call σ α) (exchange : Except Failure α → Exchange), c = c₀.followed exchange ∧
      ∀ f, Throws f (exchange (.error f)) := by
  cases hc with
  | openSession => exact ⟨g.backend.openSession, .opening, rfl, fun _ => .inl rfl⟩
  | stat s path =>
    exact ⟨g.backend.stat s path, fun a => .worked s .stat (thrown a), rfl, fun _ => .inl rfl⟩
  | permits s right path =>
    exact ⟨g.backend.permits s right path, fun a => .worked s (.permits right) (thrown a), rfl,
      fun _ => .inl rfl⟩
  | create s path kind =>
    exact ⟨g.backend.create s path kind, fun a => .worked s .create (thrown a), rfl,
      fun _ => .inl rfl⟩
  | list s path =>
    exact ⟨g.backend.list s path, fun a => .worked s .list (thrown a), rfl, fun _ => .inl rfl⟩
  | capacity hcapacity s =>
    obtain ⟨space, -, rfl⟩ := Option.map_eq_some_iff.mp hcapacity
    exact ⟨space s, _, rfl, fun _ => .inl rfl⟩
  | release s =>
    exact ⟨g.backend.release s, fun a => .released s (thrown a), rfl, fun _ => .inl rfl⟩
  | identity owner =>
    exact ⟨g.identities.resolve owner, fun a => .asked owner (thrown a), rfl,
      fun _ => .inr ⟨owner, rfl⟩⟩

/-- That something is mapped already is explained by an exchange in which it was thrown. -/
theorem followed_explains (g : Gateway σ) : g.followed.Explains fun f b =>
    f.code? = some .alreadyMapped → ∃ exchange ∈ b.2, Throws f exchange where
  call {_ c} hc b f hf _ := by
    obtain ⟨c₀, exchange, rfl, throws⟩ := hc.followed
    rw [Call.answer_followed] at hf ⊢
    refine ⟨_, List.mem_append_right _ List.mem_cons_self, ?_⟩
    rw [hf]
    exact throws f
  released {_ b} thrown s hcode := by
    obtain ⟨exchange, hmem, throws⟩ := thrown hcode
    exact ⟨exchange, List.mem_append_left _ hmem, throws⟩
  harmless hmapped _ _ hcode := absurd hcode hmapped

/-- A request that ends with something being mapped already does so because a call of the backend
threw that.  What the gateway itself finds mapped, and what the registry throws, has another
class. -/
theorem thrown_of_alreadyMapped (ht : w.inodes.RootedAt g.rootPath) {r : Request} {e : Failure}
    (he : ((g.perform r).answer w).1 = .error e) (hcode : e.code? = some .alreadyMapped) :
    ∃ exchange ∈ g.exchanges w r, exchange.thrown? = some e := by
  have contract := contract_rootedAt g.followed_explains fun r _ h =>
    absurd h (code?_collision_ne r)
  have same := (g.perform_followed w r).1.trans he
  have thrown : ∃ exchange ∈ g.exchanges w r, Throws e exchange := by
    rcases (contract.perform_triple r).outcome (w := w.following) ht with
      ⟨a, ha, -⟩ | ⟨f, hf, -, throws⟩
    · rw [ha] at same
      cases same
    · rw [hf] at same
      cases same
      exact throws hcode
  obtain ⟨exchange, hmem, hthrown | ⟨owner, rfl⟩⟩ := thrown
  · exact ⟨exchange, hmem, hthrown⟩
  -- Had the registry thrown it, the request would have been ended by a failed look-up of an owner.
  have caused : (Refusal.identityLookup owner).because e ∈ g.causes w r :=
    List.mem_filterMap.mpr ⟨_, hmem, rfl⟩
  have translates := (g.perform_translates w r).2
  rw [he] at translates
  rcases translates with ⟨hcauses, -⟩ | ⟨x, hcauses, hx⟩
  · rw [hcauses] at caused
    cases caused
  · rw [hcauses, List.mem_singleton] at caused
    subst caused
    have stored : e.code? = some .ioFailure := by
      cases r with
      | checkAccess h mask =>
        obtain ⟨p, -, heq⟩ := hx
        exact congrArg Failure.code? heq
      | _ => exact congrArg Failure.code? (Failure.Translated.eq_of_fault hx rfl)
    rw [stored] at hcode
    cases hcode

/-- What becomes of collisions. -/
structure Contained (g : Gateway σ) (w : World σ) : Prop where
  /-- The occupied handles that come next come to an end. -/
  ahead : ∃ k, w.inodes.Ahead k
  /-- Lookups of an object without a handle get past them, one by one. -/
  lookups : ∀ k parent q name n (P : σ → Prop), w.inodes.Ahead k →
    pathFor w.inodes parent = .ok q → Name.ofText name = .ok n →
    (∀ h, (h, q.child n) ∉ w.inodes.entries) →
    g.backend.Describes (q.child n).toText P → P w.backend →
    g.Passes w parent name (q.child n) k
  /-- That something is mapped already is reported only if the backend threw it. -/
  mapped : ∀ r e, ((g.perform r).answer w).1 = .error e → e.code? = some .alreadyMapped →
    ∃ exchange ∈ g.exchanges w r, exchange.thrown? = some e
  /-- The two directions of the table agree. -/
  bijection : w.inodes.ExactBijection

theorem contained (ht : w.inodes.RootedAt g.rootPath) : g.Contained w where
  ahead := w.inodes.exists_ahead
  lookups _ _ _ _ _ _ ahead resolved hname unseen describes hP :=
    passes ht resolved hname unseen describes hP ahead
  mapped _ _ he hcode := thrown_of_alreadyMapped ht he hcode
  bijection := ht.coherent.exactBijection

/-! ### Creations -/

section Creations

variable {ι : Type} {identities : Identity.Registry ι} {permissions : PermissionModel}
  {rootPath p : Path} {word : String} {owner : Principal} {mode : Num} {wanted : Creation}
  {kind : Kind} {m : Memory}

/-- What becomes of a request for an object at `c` that draws an occupied handle, with `k` more
behind it. -/
structure HalfMade (g : Gateway (Site Memory ι)) (w : World (Site Memory ι)) (parent : Handle)
    (name word : String) (owner : Principal) (mode : Num) (c : Path) (kind : Kind) (k : Nat) :
    Prop where
  collided : g.Collided w (.create parent name word owner mode)
  /-- The object is there all the same. -/
  made : (g.after w (.create parent name word owner mode)).backend.storage.kindAt? c = some kind
  /-- The same request finds it, and changes nothing in the table. -/
  again :
    let v := g.after w (.create parent name word owner mode)
    (∃ e, ((g.perform (.create parent name word owner mode)).answer v).1 = .error e ∧
      e.code? = some .alreadyExists) ∧
    (g.after v (.create parent name word owner mode)).inodes = v.inodes
  /-- Lookups recover it. -/
  recovers :
    let v := g.after w (.create parent name word owner mode)
    g.Passes (g.after v (.create parent name word owner mode)) parent name c k

/-- An object that stands in the tree, and at which no failure is wanted, can be described. -/
theorem describes_beside (clear : m.checkFailure c = .ok ()) {node : Node}
    (hnode : m.nodes.get? c = some node) :
    (Memory.backend.beside : Backend (Site Memory ι)).Describes c.toText
      fun b => Memory.Still m b.storage := by
  intro b still
  obtain ⟨s, y, hopen, inUse⟩ := still.openSession
  have clear' : y.checkFailure c = .ok () := by
    rw [Memory.checkFailure, inUse.1.failures]
    exact clear
  have told := Memory.answer_stat_clear clear' inUse.2
  rw [inUse.1.nodes, hnode] at told
  refine ⟨s, { b with storage := y }, Memory.metadataOf c node, { b with storage := y }, ?_, ?_,
    inUse.release⟩
  · show ((Memory.openSession.answer b.storage).1,
      { b with storage := (Memory.openSession.answer b.storage).2 }) = _
    rw [hopen]
  · show (((Memory.backend.stat s c.toText).answer y).1,
      { b with storage := ((Memory.backend.stat s c.toText).answer y).2 }) = _
    rw [told]

/-- Where an object was made, another one is refused. -/
theorem admits_withObject (h : m.admits c = .ok ()) (kind : Kind) : (m.withObject c kind).admits c =
    .error (.backend .alreadyExists "Object already exists" (some c.toText)) := by
  have taken : (m.withObject c kind).nodes.contains c = true := by
    rw [OrderedMap.contains, Memory.get?_withObject]
    rfl
  rw [Memory.admits, Memory.checkFailure_withObject h, taken]
  rfl

section Requests

variable {w : World (Site Memory ι)} {f : Failure} (resolved : pathFor w.inodes parent = .ok p)
  (accepted : Creation.check parent name word owner mode = .ok wanted)
include resolved accepted

variable (identities permissions rootPath) in
/-- A request for a new object is refused, or the object is made and its path sighted. -/
theorem perform_create :
    let outcome := ((besideTree identities permissions rootPath).perform
      (.create parent name word owner mode)).answer w
    let c := p.child wanted.name
    (∃ f, w.backend.storage.admits c = .error f ∧ outcome.1 = .error (restate f) ∧
      Memory.Still w.backend.storage outcome.2.backend.storage ∧ outcome.2.inodes = w.inodes) ∨
    (w.backend.storage.admits c = .ok () ∧
      Memory.Still (w.backend.storage.withObject c wanted.kind) outcome.2.backend.storage ∧
      outcome.2.inodes = (w.inodes.sightPath c).2 ∧
      outcome.1 = match (w.inodes.sightPath c).1 with
        | .ok h => .ok (.handle h)
        | .error r => .error (restate (collision r.failure))) := by
  intro outcome c
  have known := Inodes.pathOf_eq_ok_iff.mpr (pathFor_eq_ok_iff.mp resolved).2
  have sights : Act.Triple _ ((besideTree identities permissions rootPath).create parent name word
      owner mode) _ _ :=
    create_sights (m := w.backend.storage) (i := w.backend.registry) known accepted
  have performs : outcome = _ := Call.answer_map _ _ _
  rw [performs]
  rcases sights.outcome ⟨⟨Memory.Still.refl _, rfl⟩, rfl⟩ with
    ⟨h, hh, ⟨still, hsight, -⟩, admitted⟩ |
    ⟨_, he, f, rfl, ⟨refused, still, table⟩ | ⟨admitted, still, r, rfl, hsight⟩⟩
  · rw [hh, hsight]
    exact .inr ⟨admitted, still, rfl, rfl⟩
  · rw [he]
    exact .inl ⟨f, refused, rfl, still, table⟩
  · rw [he, hsight]
    exact .inr ⟨admitted, still, rfl, rfl⟩

variable (identities permissions) in
/-- An object whose handle is occupied is made all the same. -/
theorem create_collides (ht : w.inodes.RootedAt rootPath)
    (admitted : w.backend.storage.admits (p.child wanted.name) = .ok ())
    (collides : w.inodes.Collides (p.child wanted.name)) :
    (besideTree identities permissions rootPath).Collided w
        (.create parent name word owner mode) ∧
      Memory.Still (w.backend.storage.withObject (p.child wanted.name) wanted.kind)
        ((besideTree identities permissions rootPath).after w
          (.create parent name word owner mode)).backend.storage := by
  obtain ⟨old, hold⟩ := ht.sightPath_collides collides
  rcases perform_create identities permissions rootPath resolved accepted with
    ⟨f, refused, -⟩ | ⟨-, still, table, answered⟩
  · rw [admitted] at refused
    cases refused
  · rw [hold] at table answered
    exact ⟨.of_error answered (code?_collision_handleMapped _ _) table, still⟩

variable (identities permissions rootPath) in
/-- Where the object was made before, the request is refused, and leaves tree and table. -/
theorem create_again (admitted : m.admits (p.child wanted.name) = .ok ())
    (made : Memory.Still (m.withObject (p.child wanted.name) kind) w.backend.storage) :
    let r := Request.create parent name word owner mode
    (∃ e, (((besideTree identities permissions rootPath).perform r).answer w).1 = .error e ∧
      e.code? = some .alreadyExists) ∧
    Memory.Still (m.withObject (p.child wanted.name) kind)
      ((besideTree identities permissions rootPath).after w r).backend.storage ∧
    ((besideTree identities permissions rootPath).after w r).inodes = w.inodes := by
  have taken : w.backend.storage.admits (p.child wanted.name) = .error (.backend .alreadyExists
      "Object already exists" (some (p.child wanted.name).toText)) := by
    rw [made]
    exact admits_withObject admitted kind
  rcases perform_create identities permissions rootPath resolved accepted with
    ⟨f, refused, answered, still, table⟩ | ⟨vacant, -⟩
  · rw [taken] at refused
    cases refused
    refine ⟨⟨_, answered, rfl⟩, ?_, table⟩
    rw [Memory.Still, made] at still
    exact still
  · rw [taken] at vacant
    cases vacant

/-- An object whose handle is occupied is found by the same request, and is recovered by
lookups. -/
theorem halfMade (ht : w.inodes.RootedAt rootPath)
    (admitted : w.backend.storage.admits (p.child wanted.name) = .ok ())
    (unseen : ∀ h, (h, p.child wanted.name) ∉ w.inodes.entries) (ahead : w.inodes.Ahead (k + 1)) :
    (besideTree identities permissions rootPath).HalfMade w parent name word owner mode
      (p.child wanted.name) wanted.kind k := by
  obtain ⟨-, hname, -⟩ := Creation.check_ok accepted
  obtain ⟨collided, made⟩ :=
    create_collides identities permissions resolved accepted ht admitted (ahead.collides unseen)
  have table := collided.table
  generalize hv : (besideTree identities permissions rootPath).after w
    (.create parent name word owner mode) = v at made table
  have resolved' : pathFor v.inodes parent = .ok p := by
    rw [table]
    exact resolved
  obtain ⟨refused, still, same⟩ :=
    create_again identities permissions rootPath resolved' accepted admitted made
  subst hv
  refine ⟨collided, ?_, ⟨refused, same⟩, ?_⟩
  · rw [Memory.kindAt?, made.nodes, Memory.get?_withObject]
    rfl
  · -- The same request left the table that the collision had left.
    have clear : (w.backend.storage.withObject (p.child wanted.name) wanted.kind).checkFailure
        (p.child wanted.name) = .ok () := Memory.checkFailure_withObject admitted
    have describes := describes_beside (ι := ι) clear (Memory.get?_withObject _ _ _)
    refine passes ?_ ?_ hname ?_ describes still ?_
    · rw [same, table]
      exact ht.draw
    · rw [same]
      exact resolved'
    · rw [same, table]
      exact unseen
    · rw [same, table]
      exact ahead.draw

end Requests

end Creations

/-- Whatever happened to an open gateway, pairs that were written straight into its table included:
collisions on fresh handles move the counter and nothing else, and repeated attempts get past them.
Over a tree in memory, an object whose handle is occupied is made, is found by the same request, and
is recovered by lookups. -/
theorem collisions_contained :
    (∀ {σ : Type} {g : Gateway σ} {root : String} {w : World σ}, g.OpenedAt root w →
      ∀ steps : List (Step σ), g.Contained (g.afterSteps w steps)) ∧
    ∀ {ι : Type} {identities : Identity.Registry ι} {permissions : PermissionModel}
      {rootPath : Path} {root : String} {w : World (Site Memory ι)},
      (besideTree identities permissions rootPath).OpenedAt root w →
      ∀ steps : List (Step (Site Memory ι)),
      let g := besideTree identities permissions rootPath
      let v := g.afterSteps w steps
      ∀ {parent p name word owner mode}, pathFor v.inodes parent = .ok p →
        Creation.IsAcceptable name word owner mode →
        ∃ c kind, Spelling.join p.toText name = .ok c.toText ∧ Kind.ofText? word = some kind ∧
          ∀ k, v.inodes.Ahead (k + 1) → (∀ h, (h, c) ∉ v.inodes.entries) →
            (v.backend.storage.createNode c kind).1 = .ok () →
            g.HalfMade v parent name word owner mode c kind k := by
  refine ⟨fun opened steps => contained (opened.afterSteps_rootedAt steps), ?_⟩
  intro ι identities permissions rootPath root w opened steps g v parent p name word owner mode
    resolved valid
  obtain ⟨wanted, accepted⟩ :=
    Creation.check_eq_ok_iff.mpr ⟨(pathFor_eq_ok_iff.mp resolved).1, valid⟩
  obtain ⟨-, hname, hkind⟩ := Creation.check_ok accepted
  refine ⟨p.child wanted.name, wanted.kind, ?_, hkind, fun k ahead unseen created => ?_⟩
  · rw [Spelling.join, hname, Path.ofText_toText]
    rfl
  · refine halfMade resolved accepted (opened.afterSteps_rootedAt steps) ?_ unseen ahead
    rw [Memory.createNode] at created
    cases hadmits : v.backend.storage.admits (p.child wanted.name) with
    | ok _ => rfl
    | error f =>
      rw [hadmits] at created
      cases created

section Examples

/-- Two handles that the counter has not reached are taken, and another client places a file. -/
def occupying : List (Step (Site Memory Unit)) :=
  [.plant 2 "/x", .plant 3 "/y",
    .change fun b => { b with storage := ((Memory.seed "/a" .file 1 none).answer b.storage).2 }]

theorem occupying_ahead : (besideMemory.afterSteps besideOpen occupying).inodes.Ahead 2 := by
  have free : (besideMemory.afterSteps besideOpen occupying).inodes.last + 1 +
      ((2 : Nat) : Handle) ∉ (besideMemory.afterSteps besideOpen occupying).inodes.paths.keys := by
    decide +kernel
  refine ⟨fun i hi => ?_, fun ⟨p, hmem⟩ => free (List.mem_map_of_mem (f := Prod.fst) hmem)⟩
  match i, hi with
  | 0, _ => exact ⟨⟨[⟨"x", by decide⟩]⟩, by decide +kernel⟩
  | 1, _ => exact ⟨⟨[⟨"y", by decide⟩]⟩, by decide +kernel⟩

/-- The file is found at the third attempt, under the first free handle.  A file that is made in the
meantime is there at once, and has a handle after one more collision. -/
theorem besideMemory_contained :
    let v := besideMemory.afterSteps besideOpen occupying
    besideMemory.Passes v 1 "a" Memory.directoryPath 2 ∧
    (∃ c kind, besideMemory.HalfMade v 1 "b" "file" ⟨0, 0⟩ 420 c kind 1) ∧
    ((besideMemory.perform (.lookup 1 "a")).answer (besideMemory.afterAll v
      [.lookup 1 "a", .lookup 1 "a"])).1.toOption = some (.handle 4) := by
  intro v
  have opened : besideMemory.OpenedAt "/" besideOpen :=
    ⟨besideMemory.backend, besideMemory.identities, besideMemory.permissions, besideNew, rfl, rfl⟩
  have resolved : pathFor v.inodes 1 = .ok .root := ok_of_toOption (by decide +kernel)
  refine ⟨?_, ?_, by decide +kernel⟩
  · have hname : Name.ofText "a" = .ok ⟨"a", by decide⟩ := rfl
    have unseen : Memory.directoryPath ∉ v.inodes.entries.map Prod.snd := by decide +kernel
    obtain ⟨node, hnode⟩ := Option.isSome_iff_exists.mp
      (show (v.backend.storage.nodes.get? Memory.directoryPath).isSome by decide +kernel)
    have clear : v.backend.storage.checkFailure Memory.directoryPath = .ok () :=
      ok_of_toOption (by decide +kernel)
    exact (collisions_contained.1 opened occupying).lookups 2 1 .root "a" _ _ occupying_ahead
      resolved hname (fun h hmem => unseen (List.mem_map_of_mem (f := Prod.snd) hmem))
      (describes_beside clear hnode) (Memory.Still.refl _)
  · have accepted : ∃ wanted, Creation.check 1 "b" "file" ⟨0, 0⟩ 420 = .ok wanted := ⟨_, rfl⟩
    have valid := (Creation.check_eq_ok_iff.mp accepted).2
    obtain ⟨c, kind, hc, hkind, halfMade⟩ := collisions_contained.2 opened occupying resolved valid
    obtain rfl : c = ⟨[⟨"b", by decide⟩]⟩ := Path.toText_injective (Except.ok.inj hc.symm)
    have unseen : (⟨[⟨"b", by decide⟩]⟩ : Path) ∉ v.inodes.entries.map Prod.snd := by
      decide +kernel
    cases hkind
    refine ⟨_, _, halfMade 1 occupying_ahead
      (fun h hmem => unseen (List.mem_map_of_mem (f := Prod.snd) hmem))
      (ok_of_toOption (by decide +kernel))⟩

end Examples

end Gateway

end InodeGateway
