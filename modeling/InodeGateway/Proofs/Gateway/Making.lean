import InodeGateway.Proofs.Gateway.Beside
import InodeGateway.Proofs.Gateway.Namespace
import InodeGateway.Proofs.Gateway.Standing
import InodeGateway.Proofs.Memory.Making

/-!
# From a request to a new object

Over a tree in memory, a request for a new object either finds an obstacle, and then all is as it
was, or the object is made.  It was not there before, so that it had no handle either; it gets the
next one, and is shown under it.

## Main definitions

* `Gateway.Step.Turns` — steps that leave the table to the gateway and do something with the tree
* `Gateway.Making` — what became of a request for a new object

## Main statements

* `Gateway.attests_besideTree` — what the tree described or made stands in it
* `Gateway.OpenedAt.afterSteps_inTree` — everything in the table stands in the tree
* `Gateway.OpenedAt.afterSteps_making` — what becomes of every request for a new object
-/

namespace InodeGateway

variable {σ ι : Type}

/-- What a backend lists, it lists beside a registry of identities. -/
theorem Backend.ListsChildren.beside {b : Backend σ} {P : σ → Prop} (promise : b.ListsChildren P) :
    (b.beside : Backend (Site σ ι)).ListsChildren fun s => P s.storage :=
  fun state hP s p texts hlist => promise state.storage hP s p texts hlist

namespace Gateway

/-- A step that writes nothing into the table past the gateway and does something with the tree, if
it changes what lies behind the gateway. -/
def Step.Turns : Step (Site Memory ι) → Prop
  | .request _ => True
  | .change f => ∀ b : Site Memory ι, b.storage.Turns (f b).storage
  | .plant _ _ => False

theorem Step.Turns.respects {Q : Memory → Prop} (hQ : ∀ {m n : Memory}, m.Turns n → Q m → Q n)
    {step : Step (Site Memory ι)} (h : step.Turns) : step.Respects fun b => Q b.storage := by
  cases step with
  | request r => trivial
  | change f => exact fun b hb => hQ (h b) hb
  | plant h text => exact h

/-- What became of a request for an object of this kind at `c`, in the directory at `p`. -/
structure Making (g : Gateway (Site Memory ι)) (w : World (Site Memory ι)) (p c : Path)
    (kind : Kind) (outcome : Except Failure Handle × World (Site Memory ι)) : Prop where
  /-- The object is made exactly if nothing speaks against it. -/
  succeeds_iff : (∃ h, outcome.1 = .ok h) ↔ w.backend.storage.Unopposed p c
  /-- Otherwise the first obstacle is reported, and tree and table are as they were. -/
  fails : ∀ f, outcome.1 = .error f → f.code? = (w.backend.storage.obstacles p c).head? ∧
    Memory.Still w.backend.storage outcome.2.backend.storage ∧ outcome.2.inodes = w.inodes
  /-- The tree gains the object, and the table the pair of the answered handle and its path. -/
  makes : ∀ h, outcome.1 = .ok h → w.backend.storage.Gains p c kind outcome.2.backend.storage ∧
    outcome.2.inodes.entries = w.inodes.entries ++ [(h, c)] ∧ outcome.2.inodes.last = h
  /-- The object is shown under its handle, if its owner has a user id. -/
  shows : ∀ h, outcome.1 = .ok h → ∀ id, ((Attributes.askUserId g.identities
      (Memory.metadataOf c (w.backend.storage.newNode kind))).answer outcome.2).1 = .ok id →
    ∃ a, ((g.getAttributes h).answer outcome.2).1 = .ok a ∧ a.inode = h ∧ a.kind = kind ∧
      a.size = 0 ∧ a.userId = id

section BesideTree

variable {identities : Identity.Registry ι} {permissions : PermissionModel} {rootPath : Path}
  {m : Memory} {i : ι} {T : Inodes} {w : World (Site Memory ι)} {root : String} {parent h : Handle}
  {p c : Path} {name word : String} {owner : Principal} {mode : Num} {wanted : Creation}
  {kind : Kind}

/-- A path at which an object stands in the tree. -/
abbrev InTree (p : Path) (b : Site Memory ι) : Prop := b.storage.kindAt? p ≠ none

/-- What the tree described or made stands in it. -/
theorem attests_besideTree : (besideTree identities permissions rootPath).Attests InTree where
  kept p := preserves_besideTree (Q := fun m => m.kindAt? p ≠ none) (fun _ _ h => h)
    fun m c kind _ h => Memory.kindAt?_insert_ne_none kind 0 m.owner h
  described {s text p x d} hp hd := by
    have told : ((Memory.backend.stat s text).answer x.storage).1 = .ok d := hd
    obtain ⟨q, node, hq, hnode, -⟩ := Memory.node_of_stat told
    obtain rfl : q = p := Except.ok.inj (hq.symm.trans hp)
    have same : ((Memory.backend.stat s text).answer x.storage).2 = x.storage :=
      Memory.state_withinAt s text _ x.storage
    show ((Memory.backend.stat s text).answer x.storage).2.kindAt? q ≠ none
    rw [same, Memory.kindAt?, hnode]
    exact Option.some_ne_none _
  made {s p kind x} hmade := by
    have told : ((Memory.backend.create s p.toText kind).answer x.storage).1 = .ok () := hmade
    show ((Memory.backend.create s p.toText kind).answer x.storage).2.kindAt? p ≠ none
    rw [Memory.kindAt?_of_create told]
    exact Option.some_ne_none _

/-- Where the directory is registered and the arguments are accepted, the object is made and its
path sighted, or what speaks against it is reported. -/
theorem create_sights (registered : T.pathOf parent = .ok p)
    (accepted : Creation.check parent name word owner mode = .ok wanted) :
    Act.Triple (Site.Holds (fun b t => Memory.Still m b ∧ t = T) (· = i))
      ((besideTree identities permissions rootPath).create parent name word owner mode)
      (fun h b t => (Memory.Still (m.withObject (p.child wanted.name) wanted.kind) b.storage ∧
        T.sightPath (p.child wanted.name) = (.ok h, t) ∧ b.registry = i) ∧
          m.admits (p.child wanted.name) = .ok ())
      fun e b t => ∃ f, e = restate f ∧
        ((m.admits (p.child wanted.name) = .error f ∧ Memory.Still m b.storage ∧ t = T) ∨
          (m.admits (p.child wanted.name) = .ok () ∧
            Memory.Still (m.withObject (p.child wanted.name) wanted.kind) b.storage ∧
            ∃ r : Refusal, f = collision r.failure ∧
              T.sightPath (p.child wanted.name) = (.error r, t))) := by
  refine run_restates (.check_bind accepted ?_)
  refine .bind (M := fun q b t => Site.Holds (fun b t => Memory.Still m b ∧ t = T) (· = i) b t ∧
    q = p) (.look ?_) fun q => .assuming fun hq => .bind (.note _ _ _) fun _ => ?_
  · rintro b _ ⟨⟨still, rfl⟩, hi⟩
    rw [registered]
    exact ⟨fun q hq => ⟨⟨⟨still, rfl⟩, hi⟩, (Except.ok.inj hq).symm⟩, nofun⟩
  subst hq
  refine .bind ((made_beside _ _).weaken_fails fun _ _ _ h => .inl h) fun _ =>
    .assuming fun admitted => .bind (.explain (.table ?_)) fun h =>
      .bind (.note _ _ _) fun _ => .bind (.note _ _ _) fun _ => .pure fun _ _ hb => ⟨hb, admitted⟩
  rintro b _ ⟨⟨still, rfl⟩, hi⟩
  exact ⟨fun h hh => ⟨still, Prod.ext hh rfl, hi⟩,
    fun r hr => .inr ⟨admitted, still, r, rfl, Prod.ext hr rfl⟩⟩

/-- Where the table is dense, what was made gets its handle. -/
theorem create_making (dense : T.Dense) (registered : (parent, p) ∈ T.entries)
    (accepted : Creation.check parent name word owner mode = .ok wanted) :
    Act.Triple (Site.Holds (fun b t => Memory.Still m b ∧ t = T) (· = i))
      ((besideTree identities permissions rootPath).create parent name word owner mode)
      (fun h b t => (Site.Holds (fun b t =>
        Memory.Still (m.withObject (p.child wanted.name) wanted.kind) b ∧
          t = (T.sightPath (p.child wanted.name)).2) (· = i) b t ∧
        (T.sightPath (p.child wanted.name)).1 = .ok h) ∧ m.admits (p.child wanted.name) = .ok ())
      fun e b t => ∃ f, e = restate f ∧ m.admits (p.child wanted.name) = .error f ∧
        Memory.Still m b.storage ∧ t = T := by
  have resolved := Inodes.pathOf_eq_ok_iff.mpr (dense.coherent.pathGet?_iff.mpr registered)
  refine (create_sights resolved accepted).consequence (fun _ _ hb => hb) ?_ ?_
  · rintro h b t ⟨⟨still, sighted, hi⟩, admitted⟩
    rw [sighted]
    exact ⟨⟨⟨⟨still, rfl⟩, hi⟩, rfl⟩, admitted⟩
  · rintro e b t ⟨f, rfl, ⟨refused, still, ht⟩ | ⟨-, -, r, -, hr⟩⟩
    · exact ⟨f, rfl, refused, still, ht⟩
    · obtain ⟨h, hh⟩ := dense.sightPath_ok (p.child wanted.name)
      rw [hr] at hh
      cases hh

/-- An object that is there is shown under its handle, if its owner has a user id. -/
theorem shows_of_registered {node : Node} {id : Nat} (ht : w.inodes.Coherent)
    (registered : (h, c) ∈ w.inodes.entries) (clear : w.backend.storage.checkFailure c = .ok ())
    (hnode : w.backend.storage.nodes.get? c = some node)
    (owned : ((Attributes.askUserId identities.beside (Memory.metadataOf c node)).answer w).1 =
      .ok id) :
    (((besideTree identities permissions rootPath).getAttributes h).answer w).1 =
      .ok (Attributes.shown permissions h (Memory.metadataOf c node) id) := by
  have asks : Act.Triple (Site.Holds (fun _ _ => True) (· = w.backend.registry))
      (Attributes.askUserId identities.beside (Memory.metadataOf c node)) _ _ :=
    askUserId_beside _
  have tells : Act.Triple (Site.Holds
        (fun b t => Memory.Still w.backend.storage b ∧ t = w.inodes) (· = w.backend.registry))
      ((besideTree identities permissions rootPath).getAttributes h) _ _ :=
    getAttributes_beside ht registered clear hnode
  have asked := asks w ⟨trivial, rfl⟩
  have ends := tells w ⟨⟨Memory.Still.refl _, rfl⟩, rfl⟩
  rcases hasked : (Attributes.askUserId identities.beside (Memory.metadataOf c node)).answer w with
    ⟨f | id', v⟩ <;> rw [hasked] at asked owned
  · cases owned
  obtain rfl : id' = id := Except.ok.inj owned
  rcases htold : ((besideTree identities permissions rootPath).getAttributes h).answer w with
    ⟨f | a, u⟩ <;> rw [htold] at ends
  · obtain ⟨⟨⟨f', hf'⟩, -⟩, -⟩ := ends
    rw [asked.1] at hf'
    cases hf'
  · obtain ⟨⟨id'', hid, rfl⟩, -⟩ := ends
    obtain rfl : id' = id'' := Except.ok.inj (asked.1.symm.trans hid)
    rfl

/-- A request that is refused left all as it was, and is refused for the first obstacle. -/
theorem Making.of_refused {g : Gateway (Site Memory ι)} {w' : World (Site Memory ι)} {f : Failure}
    (hparent : c.parent? = some p) (refused : w.backend.storage.admits c = .error f)
    (still : Memory.Still w.backend.storage w'.backend.storage) (same : w'.inodes = w.inodes) :
    g.Making w p c kind (.error (restate f), w') where
  succeeds_iff := by
    refine ⟨?_, fun unopposed => ?_⟩
    · rintro ⟨h, ⟨⟩⟩
    · rw [(Memory.admits_eq_ok_iff hparent).mpr unopposed] at refused
      cases refused
  fails := by
    rintro f ⟨⟩
    exact ⟨Memory.code?_of_admits hparent refused, still, same⟩
  makes := by rintro h ⟨⟩
  shows := by rintro h ⟨⟩

/-- Where everything in the table stands in the tree, what may be made has no handle. -/
theorem Grounded.not_mem {b : Site Memory ι} (grounded : Grounded InTree b T)
    (hparent : c.parent? = some p) (admitted : b.storage.admits c = .ok ()) (k : Handle) :
    (k, c) ∉ T.entries := by
  intro hk
  refine grounded k c hk ?_
  rw [Memory.kindAt?, ((Memory.admits_eq_ok_iff hparent).mp admitted).vacant]
  rfl

/-- Where everything in the table stands in the tree, an object that was made had no handle; it has
the next one now, and is shown under it. -/
theorem WithinRoot.making_of_made {w' : World (Site Memory ι)}
    (within : (besideTree identities permissions rootPath).WithinRoot
      (fun b => b.storage.Reachable) w.backend w.inodes)
    (grounded : Grounded InTree w.backend w.inodes) (hparent : c.parent? = some p)
    (admitted : w.backend.storage.admits c = .ok ())
    (still : Memory.Still (w.backend.storage.withObject c kind) w'.backend.storage)
    (htable : w'.inodes = (w.inodes.sightPath c).2) (hh : (w.inodes.sightPath c).1 = .ok h) :
    (besideTree identities permissions rootPath).Making w p c kind (.ok h, w') := by
  have dense := within.denseAt.dense
  have unopposed := (Memory.admits_eq_ok_iff hparent).mp admitted
  have fresh := dense.coherent.handleGet?_eq_none (grounded.not_mem hparent admitted)
  rw [dense.sightPath_of_none fresh] at hh htable
  obtain rfl : w.inodes.last + 1 = h := Except.ok.inj hh
  have pairs : w'.inodes.entries = w.inodes.entries ++ [(w.inodes.last + 1, c)] :=
    htable ▸ dense.entries_add_next c
  refine ⟨⟨fun _ => unopposed, fun _ => ⟨_, rfl⟩⟩, ?_, fun h hh => ?_, fun h hh id hid => ?_⟩
  · rintro f ⟨⟩
  · obtain rfl := Except.ok.inj hh
    exact ⟨(within.behind.gains unopposed hparent kind).still still, pairs, htable ▸ rfl⟩
  · obtain rfl := Except.ok.inj hh
    refine ⟨_, shows_of_registered (htable ▸ (dense.add fresh).coherent)
      (pairs ▸ List.mem_append_right _ List.mem_cons_self) ?_ ?_ hid, rfl, rfl, rfl, rfl⟩
    · rw [Memory.checkFailure, still.failures]
      exact Memory.checkFailure_withObject admitted
    · rw [still.nodes]
      exact Memory.get?_withObject _ _ _

/-- Where everything in the table stands in the tree, this is what becomes of a request for a new
object. -/
theorem WithinRoot.making
    (within : (besideTree identities permissions rootPath).WithinRoot
      (fun b => b.storage.Reachable) w.backend w.inodes)
    (grounded : Grounded InTree w.backend w.inodes) (registered : (parent, p) ∈ w.inodes.entries)
    (accepted : Creation.check parent name word owner mode = .ok wanted) :
    (besideTree identities permissions rootPath).Making w p (p.child wanted.name) wanted.kind
      (((besideTree identities permissions rootPath).create parent name word owner mode).answer
        w) := by
  have hparent := Path.parent?_child p wanted.name
  have makes : Act.Triple (Site.Holds
        (fun b t => Memory.Still w.backend.storage b ∧ t = w.inodes) (· = w.backend.registry))
      ((besideTree identities permissions rootPath).create parent name word owner mode) _ _ :=
    create_making within.denseAt.dense registered accepted
  have ends := makes w ⟨⟨Memory.Still.refl _, rfl⟩, rfl⟩
  rcases heq : ((besideTree identities permissions rootPath).create parent name word owner
    mode).answer w with ⟨f | h, w'⟩ <;> rw [heq] at ends
  · obtain ⟨f', rfl, refused, still, same⟩ := ends
    exact .of_refused hparent refused still same
  · obtain ⟨⟨⟨⟨still, htable⟩, -⟩, hh⟩, admitted⟩ := ends
    exact within.making_of_made grounded hparent admitted still htable hh

/-- A gateway over a tree in memory was opened and used in any way, while others worked on the tree
and nobody wrote into its table past it.  Then everything in its table stands in the tree. -/
theorem OpenedAt.afterSteps_inTree
    (opened : (besideTree identities permissions rootPath).OpenedAt root w)
    (hw : w.backend.storage.Reachable) {steps : List (Step (Site Memory ι))}
    (hsteps : ∀ step ∈ steps, step.Turns) :
    let after := (besideTree identities permissions rootPath).afterSteps w steps
    (besideTree identities permissions rootPath).WithinRoot (fun b => b.storage.Reachable)
      after.backend after.inodes ∧ Grounded InTree after.backend after.inodes := by
  have kept : (besideTree identities permissions rootPath).Preserves fun b => b.storage.Reachable :=
    Preserves.beside (preserves_reachable Identity.passthrough permissions rootPath)
  exact opened.afterSteps_grounded attests_besideTree hw Memory.listsChildren.beside kept
    (fun step hstep => (hsteps step hstep).respects fun turns hm => turns.reachable hm)
    fun step hstep p => (hsteps step hstep).respects fun turns hp => turns.kindAt?_ne_none hp

/-- A gateway over a tree in memory was opened and used in any way, while others worked on the tree
and nobody wrote into its table past it.  A request for a new object whose directory has a handle
and whose arguments are acceptable then makes the object exactly if nothing speaks against it;
otherwise the first obstacle is reported, and all is as it was. -/
theorem OpenedAt.afterSteps_making {g : Gateway (Site Memory ι)}
    (hg : g = besideTree identities permissions rootPath) (opened : g.OpenedAt root w)
    (hw : w.backend.storage.Reachable) {steps : List (Step (Site Memory ι))}
    (hsteps : ∀ step ∈ steps, step.Turns)
    (resolved : pathFor (g.afterSteps w steps).inodes parent = .ok p)
    (valid : Creation.IsAcceptable name word owner mode) :
    ∃ c kind, Spelling.join p.toText name = .ok c.toText ∧ Kind.ofText? word = some kind ∧
      g.Making (g.afterSteps w steps) p c kind
        ((g.create parent name word owner mode).answer (g.afterSteps w steps)) := by
  subst hg
  obtain ⟨within, grounded⟩ := opened.afterSteps_inTree hw hsteps
  obtain ⟨wanted, accepted⟩ :=
    Creation.check_eq_ok_iff.mpr ⟨(pathFor_eq_ok_iff.mp resolved).1, valid⟩
  obtain ⟨-, hname, hkind⟩ := Creation.check_ok accepted
  refine ⟨p.child wanted.name, wanted.kind, ?_, hkind, within.making grounded
    ((pathFor_iff within.denseAt.dense.coherent).mp resolved) accepted⟩
  rw [Spelling.join, hname, Path.ofText_toText]
  rfl

end BesideTree

section Examples

/-- A gateway over a tree in memory, in which the names of owners are their user ids. -/
def besideMemory : Gateway (Site Memory Unit) :=
  besideTree (Identity.passthrough : Identity.Directory) .fixed .root

def besideNew : World (Site Memory Unit) where
  backend := ⟨newTree.backend, (), 0⟩

/-- The same world, after the gateway was opened. -/
def besideOpen : World (Site Memory Unit) :=
  ((establish besideMemory.backend besideMemory.identities besideMemory.permissions "/").answer
    besideNew).2

/-- A directory is made through the gateway, and another client places a file in it. -/
def furnishing : List (Step (Site Memory Unit)) :=
  [.request (.create 1 "a" "directory" ⟨0, 0⟩ 493),
    .change fun b => { b with storage := ((Memory.seed "/a/b" .file 1 none).answer b.storage).2 }]

/-- A file is made beside the one that is there already; it gets the next handle, under which it is
shown. -/
theorem besideMemory_making :
    let before := besideMemory.afterSteps besideOpen furnishing
    let outcome := (besideMemory.create 2 "c" "file" ⟨0, 0⟩ 420).answer before
    (∃ c kind, Spelling.join Memory.directoryPath.toText "c" = .ok c.toText ∧
      besideMemory.Making before Memory.directoryPath c kind outcome) ∧
    outcome.1.toOption = some 3 ∧
    ((besideMemory.getAttributes 3).answer outcome.2).1.toOption.map
      (fun a => (a.inode, a.kind, a.size, a.userId)) = some (3, .file, 0, 7) := by
  have opened : besideMemory.OpenedAt "/" besideOpen :=
    ⟨besideMemory.backend, besideMemory.identities, besideMemory.permissions, besideNew, rfl, rfl⟩
  have start : Memory.Reachable newTree.backend := @Memory.Reachable.created _ _ _ [] _ rfl
  have reached : besideOpen.backend.storage.Reachable :=
    (start.called .openSession).called (.release 0)
  have turns : ∀ step ∈ furnishing, step.Turns := by
    refine List.forall_mem_cons.mpr ⟨trivial, List.forall_mem_singleton.mpr ?_⟩
    exact fun b => .called (.seed "/a/b" .file 1 none)
  have resolved : pathFor (besideMemory.afterSteps besideOpen furnishing).inodes 2 =
      .ok Memory.directoryPath := ok_of_toOption (by decide +kernel)
  have accepted : ∃ wanted, Creation.check 2 "c" "file" ⟨0, 0⟩ 420 = .ok wanted := ⟨_, rfl⟩
  have valid := (Creation.check_eq_ok_iff.mp accepted).2
  obtain ⟨c, kind, hc, -, making⟩ :=
    opened.afterSteps_making rfl reached turns resolved valid
  exact ⟨⟨c, kind, hc, making⟩, by decide +kernel, by decide +kernel⟩

end Examples

end Gateway

end InodeGateway
