import InodeGateway.Proofs.Attributes
import InodeGateway.Proofs.Backend.Faulty
import InodeGateway.Proofs.Gateway.Density
import InodeGateway.Proofs.Gateway.Translation
import InodeGateway.Proofs.Memory.Calm
import InodeGateway.Proofs.Memory.Tree

/-!
# Objects that are made and read back

Over a tree in memory, an object is made, and then its attributes are read back.  A failure of the
first step leaves everything as it was.  The second step fails only if the owner of the object has
no user id, and then the object is there nevertheless.

## Main definitions

* `Backend.beside` — the same backend, beside a registry of identities with a state of its own
* `Gateway.Untouched` — tree and table are as before
* `Gateway.Made` — one object was made, it has its handle, and nothing else happened

## Main statements

* `Gateway.create_beside` — making an object touches nothing unless it succeeds
* `Gateway.making_beside` — making it and reading it back
-/

namespace InodeGateway

section Beside

variable {σ ι α : Type}

/-- The same backend, beside a registry with a state of its own. -/
def Backend.beside (b : Backend σ) : Backend (Site σ ι) where
  kind := b.kind
  openSession := Site.storing b.openSession
  stat s path := Site.storing (b.stat s path)
  permits s right path := Site.storing (b.permits s right path)
  create s path kind := Site.storing (b.create s path kind)
  list s path := Site.storing (b.list s path)
  capacity := b.capacity.map fun space s => Site.storing (space s)
  release s := Site.storing (b.release s)

/-- `P` holds of the storage and the table, and `R` of the state of the registry. -/
abbrev Site.Holds (P : Assertion σ) (R : ι → Prop) : Assertion (Site σ ι) :=
  fun b t => P b.storage t ∧ R b.registry

/-- A call of the backend takes no notice of the registry. -/
theorem Site.storing_triple {P : Assertion σ} {R : ι → Prop} {c : Call σ α} {post : α → Assertion σ}
    {fails : Failure → Assertion σ} (h : Act.Triple P (Act.call c) post fails) :
    Act.Triple (Holds P R) (Act.call (storing c)) (fun x => Holds (post x) R)
      fun f => Holds (fails f) R := by
  rintro w ⟨hP, hR⟩
  have ends := h ⟨w.backend.storage, w.inodes, w.journal, w.observed⟩ hP
  rw [Act.answer_call] at ends ⊢
  simp only [storing, Call.answer_onPart]
  rcases heq : (c.answer w.backend.storage).1 with f | x <;> rw [heq] at ends <;> exact ⟨ends, hR⟩

end Beside

namespace Memory

variable {ι α : Type} {m n : Memory} {K : Inodes → Prop} {R S : ι → Prop}

/-- What a session makes of the tree stays when it is released. -/
theorem session_beside {body : Session → Act (Site Memory ι) α} {Q : α → Inodes → Prop}
    {F : Failure → Inodes → Prop}
    (hbody : ∀ s, Act.Triple (Site.Holds (fun b t => InUse m s b ∧ K t) R) (body s)
      (fun x => Site.Holds (fun b t => InUse n s b ∧ Q x t) S)
      fun f b t => InUse m s b.storage ∧ F f t) :
    Act.Triple (Site.Holds (fun b t => Still m b ∧ K t) R) (Act.withSession backend.beside body)
      (fun x => Site.Holds (fun b t => Still n b ∧ Q x t) S)
      fun f b t => Still m b.storage ∧ F f t := by
  refine .withSession
    ((Site.storing_triple openSession_triple).weaken_fails fun _ _ _ h => h.1.elim) hbody ?_ ?_
  · rintro s x b t ⟨⟨inUse, hQ⟩, hR⟩
    exact ⟨⟨inUse.release, hQ⟩, hR⟩
  · rintro s f b t ⟨inUse, hF⟩
    exact ⟨inUse.release, hF⟩

/-- The tree with an empty object at a path. -/
def withObject (m : Memory) (p : Path) (kind : Kind) : Memory := m.insert p kind 0 m.owner

/-- The object at the path of `withObject`. -/
def newNode (m : Memory) (kind : Kind) : Node :=
  ⟨kind, 0, m.owner.name, m.owner.zone, m.now, m.now, []⟩

theorem get?_withObject (m : Memory) (p : Path) (kind : Kind) :
    (m.withObject p kind).nodes.get? p = some (m.newNode kind) := by
  rw [withObject, get?_nodes_insert, if_pos rfl]
  rfl

/-- Where an object may be made, no failure is wanted, before or afterwards. -/
theorem checkFailure_withObject {p : Path} {kind : Kind} (h : m.admits p = .ok ()) :
    (m.withObject p kind).checkFailure p = .ok () := by
  obtain ⟨_, clear, -⟩ := ok_of_bind h
  have kept : (m.withObject p kind).failures = m.failures := by
    unfold withObject Memory.insert
    split <;> rfl
  rw [checkFailure, kept]
  exact clear

/-- A session makes an object where that is admitted, and otherwise touches nothing. -/
theorem create_triple (s : Session) (p : Path) (kind : Kind) :
    Act.Triple (fun b t => InUse m s b ∧ K t) (Act.call (backend.create s p.toText kind))
      (fun _ b t => InUse (m.withObject p kind) s b ∧ m.admits p = .ok () ∧ K t)
      (fun f b t => InUse m s b ∧ m.admits p = .error f ∧ K t) := by
  refine .call ?_
  rintro b t ⟨⟨still, hs⟩, hK⟩
  have made := m.createNode_sessions b.sessions p kind
  rw [answer_create hs, still, made, createNode]
  cases hp : m.admits p with
  | error f =>
    refine ⟨fun _ h => ?_, fun _ h => ⟨⟨rfl, hs⟩, h, hK⟩⟩
    cases h
  | ok _ =>
    refine ⟨fun _ _ => ⟨⟨rfl, hs⟩, rfl, hK⟩, fun _ h => ?_⟩
    cases h

end Memory

namespace Gateway

variable {ι : Type} {identities : Identity.Registry ι} {permissions : PermissionModel}
  {rootPath : Path} {m : Memory} {i : ι} {T : Inodes} {h : Handle} {p : Path}

/-- A gateway over a tree in memory, beside a registry of identities with a state of its own. -/
def besideTree (identities : Identity.Registry ι) (permissions : PermissionModel)
    (rootPath : Path) : Gateway (Site Memory ι) :=
  ⟨Memory.backend.beside, identities.beside, permissions, rootPath⟩

/-- A session makes the object if that is admitted; otherwise what speaks against it is reported. -/
theorem made_beside (p : Path) (kind : Kind) :
    Act.Triple (Site.Holds (fun b t => Memory.Still m b ∧ t = T) (· = i))
      (Act.withSession Memory.backend.beside fun s =>
        Act.call (Memory.backend.beside.create s p.toText kind))
      (fun _ b t => Site.Holds (fun b t => Memory.Still (m.withObject p kind) b ∧ t = T) (· = i)
        b t ∧ m.admits p = .ok ())
      fun f b t => m.admits p = .error f ∧ Memory.Still m b.storage ∧ t = T := by
  have stored := fun s => Site.storing_triple (R := (· = i))
    (Memory.create_triple (m := m) (K := (· = T)) s p kind)
  refine (Memory.session_beside (n := m.withObject p kind) (S := (· = i))
    (Q := fun _ t => m.admits p = .ok () ∧ t = T) (F := fun f t => m.admits p = .error f ∧ t = T)
      fun s => (stored s).weaken_fails fun _ _ _ h => h.1).consequence (fun _ _ h => h) ?_ ?_
  · rintro _ b t ⟨⟨still, admitted, ht⟩, hi⟩
    exact ⟨⟨⟨still, ht⟩, hi⟩, admitted⟩
  · rintro f b t ⟨still, refused, ht⟩
    exact ⟨refused, still, ht⟩

/-- What was made gets its handle, which cannot fail. -/
theorem sighted_beside {n : Memory} (dense : T.Dense) (p : Path) {fails : Failure → Assertion _} :
    Act.Triple (Site.Holds (fun b t => Memory.Still n b ∧ t = T) (· = i)) (sightPath p)
      (fun made b t => Site.Holds (fun b t => Memory.Still n b ∧ t = (T.sightPath p).2) (· = i)
        b t ∧ (T.sightPath p).1 = .ok made) fails := by
  refine .explain (.table_ok ?_)
  rintro b _ ⟨⟨still, rfl⟩, hi⟩
  obtain ⟨made, hmade⟩ := dense.sightPath_ok p
  exact ⟨made, _, Prod.ext hmade rfl, ⟨⟨still, rfl⟩, hi⟩, hmade⟩

/-- Making an object touches nothing unless it succeeds; then the object is there, and it has got a
handle. -/
theorem create_beside (dense : T.Dense) (h : Handle) (name kind : String) (owner : Principal)
    (mode : Num) :
    Act.Triple (Site.Holds (fun b t => Memory.Still m b ∧ t = T) (· = i))
      ((besideTree identities permissions rootPath).create h name kind owner mode)
      (fun made b t => ∃ p kind, Site.Holds (fun b t => Memory.Still (m.withObject p kind) b ∧
        t = (T.sightPath p).2) (· = i) b t ∧ m.admits p = .ok () ∧
        (∃ q, p.parent? = some q ∧ (h, q) ∈ T.entries) ∧ (made, p) ∈ (T.sightPath p).2.entries)
      fun _ b t => Memory.Still m b.storage ∧ t = T := by
  refine run_triple (fun _ _ _ h => h) (.bind (M := fun _ =>
    Site.Holds (fun b t => Memory.Still m b ∧ t = T) (· = i)) (.check fun b t hb => ?_)
      fun wanted => ?_)
  · exact ⟨fun _ _ => hb, fun _ _ => hb.1⟩
  refine .bind (M := fun q b t => Site.Holds (fun b t => Memory.Still m b ∧ t = T) (· = i) b t ∧
    (h, q) ∈ T.entries) (.look ?_) fun q => .assuming fun hq => .bind (.note _ _ _) fun _ => ?_
  · rintro b _ ⟨⟨still, rfl⟩, hi⟩
    refine ⟨fun q hq => ⟨⟨⟨still, rfl⟩, hi⟩, ?_⟩, fun _ _ => ⟨still, rfl⟩⟩
    exact dense.coherent.pathGet?_iff.mp (Inodes.pathOf_eq_ok_iff.mp hq)
  have hparent := Path.parent?_child q wanted.name
  generalize q.child wanted.name = p at hparent
  refine .bind ((made_beside p wanted.kind).weaken_fails fun _ _ _ h => h.2) fun _ =>
    .assuming fun admitted => .bind (sighted_beside dense p) fun made => ?_
  refine .bind (.note _ _ _) fun _ => .bind (.note _ _ _) fun _ => .pure ?_
  rintro b t ⟨holds, hmade⟩
  exact ⟨p, wanted.kind, holds, admitted, ⟨q, hparent, hq⟩, dense.coherent.mem_of_sightPath hmade⟩

/-- The user id that a registry gives the owner of an object when it is asked next. -/
def userIdFrom (identities : Identity.Registry ι) (i : ι) (d : Metadata) : Except Failure Nat :=
  ((Attributes.askUserId identities d).answer ({ backend := i } : World ι)).1

/-- Beside a backend a registry answers what it answers alone, and the backend takes no notice. -/
theorem askUserId_beside {pre : Assertion Memory} (d : Metadata) :
    Act.Triple (Site.Holds pre (· = i)) (Attributes.askUserId identities.beside d)
      (fun id b t => userIdFrom identities i d = .ok id ∧ pre b.storage t)
      fun f b t => userIdFrom identities i d = .error f ∧ f.code? = some .ioFailure ∧
        pre b.storage t := by
  rintro w ⟨hw, rfl⟩
  unfold userIdFrom Attributes.askUserId Identity.Registry.beside Site.asking
  simp only [Call.answer_bind, Act.answer_explain, Act.answer_call, Call.answer_onPart]
  rcases (identities.resolve (Identity.owner d.ownerName d.ownerZone)).answer w.backend.registry
    with ⟨f | found, registry⟩
  · exact ⟨rfl, rfl, hw⟩
  · cases found with
    | none => exact ⟨rfl, rfl, hw⟩
    | some text =>
      simp only [Except.mapError, Act.check, Act.answer_result]
      cases hid : Identity.userId (Identity.owner d.ownerName d.ownerZone) text with
      | ok id => exact ⟨rfl, hw⟩
      | error r =>
        refine ⟨rfl, ?_, hw⟩
        obtain rfl := Identity.userId_eq_error hid
        rfl

/-- Reading the attributes of an object that is there touches nothing; it fails only if the owner
has no user id, and as a failure of the storage. -/
theorem getAttributes_beside (coherent : T.Coherent) (hp : (h, p) ∈ T.entries)
    (clear : m.checkFailure p = .ok ()) {node : Node} (hnode : m.nodes.get? p = some node) :
    Act.Triple (Site.Holds (fun b t => Memory.Still m b ∧ t = T) (· = i))
      ((besideTree identities permissions rootPath).getAttributes h)
      (fun a b t => (∃ id, userIdFrom identities i (Memory.metadataOf p node) = .ok id ∧
        a = Attributes.shown permissions h (Memory.metadataOf p node) id) ∧
          Memory.Still m b.storage ∧ t = T)
      fun f b t => ((∃ f', userIdFrom identities i (Memory.metadataOf p node) = .error f') ∧
        f.code? = some .ioFailure) ∧ Memory.Still m b.storage ∧ t = T := by
  have stat : ∀ s, Act.Triple (fun b t => Memory.InUse m s b ∧ t = T)
      (Act.call (Memory.backend.stat s p.toText))
      (fun d b t => (Memory.InUse m s b ∧ t = T) ∧ d = Memory.metadataOf p node)
      fun _ _ _ => False := by
    refine fun s => .call ?_
    rintro b t ⟨⟨still, hs⟩, ht⟩
    have clear' : b.checkFailure p = .ok () := by
      rw [Memory.checkFailure, still.failures]
      exact clear
    rw [Memory.answer_stat_clear clear' hs, still.nodes, hnode]
    refine ⟨fun d hd => ⟨⟨⟨still, hs⟩, ht⟩, (Except.ok.inj hd).symm⟩, fun _ h => ?_⟩
    cases h
  refine run_triple ?_ (.bind (M := fun q b t =>
    Site.Holds (fun b t => Memory.Still m b ∧ t = T) (· = i) b t ∧ q = p) (.look ?_) fun q =>
      .assuming fun hq => ?_)
  · rintro f b t ⟨⟨unowned, hcode⟩, hb⟩
    rw [restate_of_code hcode]
    exact ⟨⟨unowned, hcode⟩, hb⟩
  · rintro b t ⟨⟨still, rfl⟩, hi⟩
    rw [(pathFor_iff coherent).mpr hp]
    refine ⟨fun q hq => ⟨⟨⟨still, rfl⟩, hi⟩, (Except.ok.inj hq).symm⟩, fun _ h => ?_⟩
    cases h
  subst hq
  refine (Memory.session_beside (n := m) (K := fun t => t = T) (S := fun _ => True)
    (Q := fun a t => (∃ id, userIdFrom identities i (Memory.metadataOf q node) = .ok id ∧
      a = Attributes.shown permissions h (Memory.metadataOf q node) id) ∧ t = T)
    (F := fun f t => ((∃ f', userIdFrom identities i (Memory.metadataOf q node) = .error f') ∧
      f.code? = some .ioFailure) ∧ t = T) fun s => ?_).consequence (fun _ _ h => h) ?_ ?_
  · refine .bind ((Site.storing_triple (stat s)).consequence (fun _ _ h => h) (fun d b t h =>
      (⟨⟨h.1.1, h.2⟩, h.1.2⟩ : Site.Holds (fun b t => Memory.InUse m s b ∧ t = T) (· = i) b t ∧
        d = Memory.metadataOf q node)) fun _ _ _ h => h.1.elim) fun d => .assuming fun hd => ?_
    subst hd
    refine .bind ((askUserId_beside _).weaken_fails ?_) fun id =>
      .bind (.note _ _ _) fun _ => .pure ?_
    · rintro f b t ⟨hf, hcode, inUse, ht⟩
      exact ⟨inUse, ⟨⟨f, hf⟩, hcode⟩, ht⟩
    · rintro b t ⟨hid, inUse, ht⟩
      exact ⟨⟨inUse, ⟨id, hid, rfl⟩, ht⟩, trivial⟩
  · rintro a b t ⟨⟨still, ha, ht⟩, -⟩
    exact ⟨ha, still, ht⟩
  · rintro f b t ⟨still, hf, ht⟩
    exact ⟨hf, still, ht⟩

/-- The tree and the table are as they were before. -/
def Untouched (m : Memory) (T : Inodes) : Assertion (Site Memory ι) :=
  fun b t => Memory.Still m b.storage ∧ t = T

/-- An object was made in a registered directory, it has its handle, and nothing else happened. -/
structure Made (m : Memory) (T : Inodes) (p : Path) (kind : Kind) (b : Site Memory ι)
    (t : Inodes) : Prop where
  admitted : m.admits p = .ok ()
  parent : ∃ h q, p.parent? = some q ∧ (h, q) ∈ T.entries
  tree : Memory.Still (m.withObject p kind) b.storage
  table : T.Registers p t

/-- The object was made, but its owner has no user id. -/
def MadeUnowned (identities : Identity.Registry ι) (m : Memory) (i : ι) (T : Inodes) :
    Assertion (Site Memory ι) :=
  fun b t => ∃ p kind, Made m T p kind b t ∧
    ∃ f, userIdFrom identities i (Memory.metadataOf p (m.newNode kind)) = .error f

/-- What is read back is the object just made: nothing in the way of making it is in the way now. -/
theorem readBack_beside {kind : Kind} {made : Handle} (dense : T.Dense)
    (parent : ∃ h q, p.parent? = some q ∧ (h, q) ∈ T.entries) (admitted : m.admits p = .ok ())
    (hmade : (made, p) ∈ (T.sightPath p).2.entries) :
    Act.Triple (Site.Holds (fun b t => Memory.Still (m.withObject p kind) b ∧
        t = (T.sightPath p).2) (· = i))
      ((besideTree identities permissions rootPath).getAttributes made)
      (fun a b t => Made m T p kind b t ∧
        ∃ id, a = Attributes.shown permissions made (Memory.metadataOf p (m.newNode kind)) id)
      fun f b t => MadeUnowned identities m i T b t ∧ f.code? = some .ioFailure := by
  refine (getAttributes_beside (dense.sightPath p).coherent hmade
    (Memory.checkFailure_withObject admitted) (Memory.get?_withObject m p kind)).consequence
      (fun _ _ h => h) ?_ ?_
  · rintro a b t ⟨⟨id, -, ha⟩, still, rfl⟩
    exact ⟨⟨admitted, parent, still, dense.registers_sightPath p⟩, id, ha⟩
  · rintro f b t ⟨⟨unowned, hcode⟩, still, rfl⟩
    exact ⟨⟨p, kind, ⟨admitted, parent, still, dense.registers_sightPath p⟩, unowned⟩, hcode⟩

/-- Making an object and reading its attributes back either touches nothing, or makes the object;
having made it, it fails only if the owner has no user id. -/
theorem making_beside (dense : T.Dense) (h : Handle) (name kind : String) (owner : Principal)
    (mode : Num) :
    Act.Triple (Site.Holds (fun b t => Memory.Still m b ∧ t = T) (· = i))
      (do
        let made ← (besideTree identities permissions rootPath).create h name kind owner mode
        return (made, ← (besideTree identities permissions rootPath).getAttributes made))
      (fun x b t => ∃ p kind, Made m T p kind b t ∧ ∃ id,
        x.2 = Attributes.shown permissions x.1 (Memory.metadataOf p (m.newNode kind)) id)
      fun f b t => Untouched m T b t ∨
        (MadeUnowned identities m i T b t ∧ f.code? = some .ioFailure) := by
  refine .bind ((create_beside dense h name kind owner mode).weaken_fails fun _ _ _ h => .inl h)
    fun made => ?_
  refine .given fun p => .given fun k => .assuming fun ⟨admitted, parent, hmade⟩ => ?_
  refine .bind ((readBack_beside dense ⟨h, parent⟩ admitted hmade).weaken_fails
    fun _ _ _ h => .inr h) fun a => .pure ?_
  rintro b t ⟨done, ha⟩
  exact ⟨p, k, done, ha⟩

end Gateway

end InodeGateway
