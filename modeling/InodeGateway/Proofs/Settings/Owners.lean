import InodeGateway.Proofs.Gateway.Alike
import InodeGateway.Proofs.Gateway.Footprint
import InodeGateway.Proofs.Gateway.Opening
import InodeGateway.Proofs.Gateway.Visits
import InodeGateway.Proofs.Identity
import InodeGateway.Proofs.Local.Containment
import InodeGateway.Proofs.Settings.Serving

/-!
# Owners that are numbers

On the disk the name of an owner is the number of a user.  Where names stand for user ids, that
number is what clients see of the owner, as long as the zone has no mark in it.  The rules for
settings ask no more of a zone than that it is not empty; in a zone with a mark, no such owner has
a user id.

## Main definitions

* `Gateway.ShowsOwner` — what the attributes of an object tell about its owner
* `Storage.OnDisk` — a storage that serves a place of the disk in a zone
* `Settings.OpensDisk` — a gateway that settings open over a directory of the disk

## Main statements

* `Attributes.userIdOf_passthrough` — the user id of a numeric owner
* `Gateway.getAttributes_eq` — the attributes of an object that the backend describes
* `Settings.numericOwners_shown` — numeric owners keep their numbers in zones without marks
* `Settings.marked_zone_loses_owner` — an accepted zone in which an owner has no user id
-/

namespace InodeGateway

namespace Attributes

variable {m : Metadata} {user : Nat}

/-- Where names stand for user ids, the user id of a numeric owner is its number; it has none if the
zone has a mark in it. -/
theorem userIdOf_passthrough (hname : m.ownerName = toString user)
    (huser : user ≤ Identity.greatestUserId) :
    userIdOf Identity.passthrough m =
      if '#' ∈ m.ownerZone.toList then
        .error (Refusal.malformedIdentity (Identity.owner m.ownerName m.ownerZone)
          (Identity.namePart (Identity.owner m.ownerName m.ownerZone))).failure
      else .ok user := by
  have resolves : Identity.passthrough.resolve (Identity.owner m.ownerName m.ownerZone) =
      .ok (some (Identity.namePart (Identity.owner m.ownerName m.ownerZone))) := by
    rw [hname]
    exact congrArg Except.ok (if_neg (mt String.isEmpty_iff.mp (Identity.namePart_numeric_ne _ _)))
  rw [userIdOf_of_some resolves, hname, Identity.userId_namePart huser]
  split <;> rfl

end Attributes

namespace Gateway

variable {σ : Type} {g : Gateway σ} {w : World σ} {h : Handle} {p : Path} {s : Session} {y : σ}
  {m : Metadata} {user : Nat}

/-- The attributes of an object are those of the description that the backend gives of it. -/
theorem getAttributes_eq {directory : Identity.Directory}
    (names : g.identities = directory.registry) (hp : pathFor w.inodes h = .ok p)
    (hopen : g.backend.openSession.answer w.backend = (.ok s, y))
    (hstat : ((g.backend.stat s p.toText).answer y).1 = .ok m) :
    ((g.getAttributes h).answer w).1 =
      ((Attributes.userIdOf directory m).map (Attributes.shown g.permissions h m)).mapError
        restate := by
  obtain ⟨outcome_eq, -⟩ := answer_run .getAttributes [handleField h] (do
    let p ← resolve h
    Act.withSession g.backend fun s => do
      let m ← Act.call (g.backend.stat s p.toText)
      Attributes.ofMetadata g.identities g.permissions h m) w
  rw [← getAttributes] at outcome_eq
  rw [outcome_eq]
  rcases hstat' : (g.backend.stat s p.toText).answer y with ⟨r, z⟩
  obtain rfl : r = .ok m := by rw [hstat'] at hstat; exact hstat
  simp only [Call.answer_bind, resolve, Act.look, Act.answer_table, hp, Except.mapError,
    Act.answer_withSession, Act.answer_call, hopen, hstat', Attributes.answer_ofMetadata, names,
    Attributes.answer_askUserId]
  cases Attributes.userIdOf directory m <;> rfl

/-- What the attributes that stand for a handle tell about an owner whose name is a number. -/
structure ShowsOwner (g : Gateway σ) (w : World σ) (h : Handle) (zone : String) (user : Nat) :
    Prop where
  /-- The number is the user id. -/
  plain : '#' ∉ zone.toList → ∃ a, ((g.getAttributes h).answer w).1 = .ok a ∧ a.userId = user
  /-- In a zone with marks there is no user id, and so there are no attributes. -/
  marked : '#' ∈ zone.toList →
    ∃ f, ((g.getAttributes h).answer w).1 = .error f ∧ f.code? = some .ioFailure

/-- An object that the backend describes with a number as its owner shows that owner. -/
theorem showsOwner_of_stat (names : g.identities = Identity.passthrough.registry)
    (hp : pathFor w.inodes h = .ok p)
    (hopen : g.backend.openSession.answer w.backend = (.ok s, y))
    (hstat : ((g.backend.stat s p.toText).answer y).1 = .ok m)
    (hname : m.ownerName = toString user) (huser : user ≤ Identity.greatestUserId) :
    g.ShowsOwner w h m.ownerZone user := by
  have told := getAttributes_eq names hp hopen hstat
  rw [Attributes.userIdOf_passthrough hname huser] at told
  refine ⟨fun plain => ?_, fun marked => ?_⟩
  · rw [if_neg plain] at told
    exact ⟨_, told, rfl⟩
  · rw [if_pos marked] at told
    exact ⟨_, told, rfl⟩

end Gateway

namespace Local

variable {l : Local} {base p : Path} {s : Session}

/-- An object on the disk is described in the zone, with the number of the user who owns it. -/
theorem stat_object (hs : l.sessions.isReleased s = false) (hroot : l.root = base.place)
    (reached : base = .root → p = .root) {entry : Disk.Entry}
    (hentry : l.disk.stat (base.under p).place = .ok entry) :
    ∃ m, (backend.stat s p.toText).answer l = (.ok m, l) ∧
      m.ownerName = toString entry.owner ∧ m.ownerZone = l.zone := by
  rw [show backend.stat s p.toText = reading s p.toText fun l place => l.describe p.toText place
    from rfl, answer_reading hs hroot reached, describe, hentry]
  exact ⟨_, rfl, rfl, rfl⟩

/-- A call keeps the place that is served, and its zone. -/
theorem frame_within {α : Type} (s : Session) (text : String)
    (f : Local → Disk.Place → Except Errno (α × Disk)) (l : Local) :
    ((within s text f).answer l).2.root = l.root ∧
      ((within s text f).answer l).2.zone = l.zone := by
  rcases heq : (within s text f).answer l with ⟨failure | a, l'⟩
  · rw [within_error heq]
    exact ⟨rfl, rfl⟩
  · obtain ⟨-, disk, -, -, rfl⟩ := within_ok heq
    exact ⟨rfl, rfl⟩

theorem frame_release (s : Session) (l : Local) :
    ((release s).answer l).2.root = l.root ∧ ((release s).answer l).2.zone = l.zone := by
  rw [release, Call.answer_of]
  split <;> exact ⟨rfl, rfl⟩

end Local

namespace Storage

variable {place : Disk.Place} {zone : String} {storage : Storage}

/-- A storage on the disk answers what the directory answers. -/
theorem answer_dispatch_disk {α : Type} (c : Call Memory α) {c' : Call Local α} {l l' : Local}
    {r : Except Failure α} (h : c'.answer l = (r, l')) :
    (Storage.dispatch c c').answer (.disk l) = (r, .disk l') := by
  rw [Storage.dispatch, Call.answer_of]
  simp only [h]

/-- The storage serves a place of the disk in a zone. -/
def OnDisk (place : Disk.Place) (zone : String) (storage : Storage) : Prop :=
  ∃ l, storage = .disk l ∧ l.root = place ∧ l.zone = zone

theorem OnDisk.dispatch (h : storage.OnDisk place zone) {α : Type} (c : Call Memory α)
    {c' : Call Local α} (frame : ∀ l, (c'.answer l).2.root = l.root ∧ (c'.answer l).2.zone = l.zone) :
    ((Storage.dispatch c c').answer storage).2.OnDisk place zone := by
  obtain ⟨l, rfl, hroot, hzone⟩ := h
  exact ⟨_, rfl, (frame l).1.trans hroot, (frame l).2.trans hzone⟩

/-- A gateway over a storage leaves what is served where it is. -/
theorem preserves_onDisk (kind : String) (directory : Identity.Directory)
    (permissions : PermissionModel) (rootPath : Path) :
    Gateway.Preserves ⟨backend kind, directory.registry, permissions, rootPath⟩
      (OnDisk place zone) := by
  intro α c hc storage h
  cases hc with
  | openSession => exact h.dispatch _ fun _ => ⟨rfl, rfl⟩
  | stat s text => exact h.dispatch _ (Local.frame_within s text _)
  | permits s right text => exact h.dispatch _ (Local.frame_within s text _)
  | create s text kind => exact h.dispatch _ (Local.frame_within s text _)
  | list s text => exact h.dispatch _ (Local.frame_within s text _)
  | capacity hcapacity s =>
    cases hcapacity
    exact h.dispatch _ (Local.frame_within s "/" fun l place => do return (← l.space place, l.disk))
  | release s => exact h.dispatch _ (Local.frame_release s)
  | identity owner => exact h

end Storage

namespace Settings

variable {s : Settings} {machine : Machine} {base : Path} {g : Gateway Storage} {w : World Storage}

/-- Settings that obey the rules open the gateway over a directory of the disk, with the storage and
the directory of identities that they choose; the names of owners stand for their user ids. -/
structure OpensDisk (s : Settings) (machine : Machine) (base : Path) (g : Gateway Storage)
    (w : World Storage) : Prop where
  accepted : s.validate = .ok s
  onDisk : ∃ directory, s.backend = .local directory ∧
    Local.absolute machine.working directory = base.place
  names : s.identityMode = .passthrough
  opened : ∃ storage identities permissions, s.storage machine = .ok storage ∧
    s.directory = .ok identities ∧
    (Gateway.establish (Storage.backend storage.kind) identities permissions s.rootPath).answer
      { backend := storage } = (.ok g, w)

namespace OpensDisk

theorem openedAt (h : s.OpensDisk machine base g w) : g.OpenedAt s.rootPath w := by
  obtain ⟨storage, identities, permissions, -, -, opened⟩ := h.opened
  exact ⟨_, identities.registry, permissions, { backend := storage }, rfl, opened⟩

theorem passthrough (h : s.OpensDisk machine base g w) :
    g.identities = Identity.passthrough.registry ∧ g.backend = Storage.backend Local.backend.kind ∧
      w.backend.OnDisk base.place s.zone := by
  obtain ⟨directory, hbackend, hbase⟩ := h.onDisk
  obtain ⟨storage, identities, permissions, hstorage, hidentities, opened⟩ := h.opened
  rw [Settings.storage, hbackend] at hstorage
  rw [Settings.directory, h.names] at hidentities
  obtain rfl := Except.ok.inj hstorage
  obtain rfl := Except.ok.inj hidentities
  have chosen : Storage.OnDisk base.place s.zone (.disk ⟨_, s.zone, machine.disk, {}⟩) :=
    ⟨_, rfl, hbase, rfl⟩
  obtain ⟨⟨hb, hi⟩, served⟩ :=
    Gateway.Preserves.establish (Storage.preserves_onDisk _ _ _) opened chosen
  exact ⟨hi, hb, served⟩

/-- Whatever clients ask, and whatever becomes of the disk, an object that stands on it shows its
owner. -/
theorem showsOwner (h : s.OpensDisk machine base g w) {steps : List (Gateway.Step Storage)}
    (respects : ∀ step ∈ steps, step.Respects (Storage.OnDisk base.place s.zone))
    {handle : Handle} {p : Path} (hp : Gateway.pathFor (g.afterSteps w steps).inodes handle = .ok p)
    {l : Local} (now : (g.afterSteps w steps).backend = .disk l)
    {entry : Disk.Entry} (stands : l.disk.stat (base.under p).place = .ok entry)
    (reached : base = .root → p = .root) (huser : entry.owner ≤ Identity.greatestUserId) :
    g.ShowsOwner (g.afterSteps w steps) handle s.zone entry.owner := by
  obtain ⟨hidentities, hbackend, served⟩ := h.passthrough
  have kept : g.Preserves (Storage.OnDisk base.place s.zone) := by
    obtain ⟨backend, identities, permissions, rootPath⟩ := g
    obtain rfl : backend = _ := hbackend
    obtain rfl : identities = _ := hidentities
    exact Storage.preserves_onDisk _ _ permissions rootPath
  obtain ⟨l', now', hroot, hzone⟩ := kept.afterSteps served respects
  obtain rfl : l = l' := Storage.disk.inj (now.symm.trans now')
  -- The session that is opened for the look is the disk's own next one.
  have opens : g.backend.openSession.answer (g.afterSteps w steps).backend =
      (.ok l.sessions.acquire.1, .disk { l with sessions := l.sessions.acquire.2 }) := by
    rw [hbackend, now]
    rfl
  obtain ⟨m, hm, hname, hmzone⟩ :=
    Local.stat_object (l := { l with sessions := l.sessions.acquire.2 })
      l.sessions.isReleased_acquire hroot reached stands
  have stat : ((g.backend.stat l.sessions.acquire.1 p.toText).answer
      (.disk { l with sessions := l.sessions.acquire.2 })).1 = .ok m := by
    rw [hbackend]
    exact congrArg Prod.fst (Storage.answer_dispatch_disk _ hm)
  have shows := Gateway.showsOwner_of_stat hidentities hp opens stat hname huser
  rwa [hmzone, hzone] at shows

end OpensDisk

/-- Where names stand for user ids, an owner whose name is a number of at most 53 bits has it as the
user id in every zone without a mark, and none in a zone with marks.  So an object shows the number
that a backend, any backend, describes as its owner.  In particular every object on the disk shows
the user who owns it to the clients of a gateway that accepted settings open there, whatever they
asked before and whatever became of the disk; where the root of the disk is served, that is said of
the root alone. -/
theorem numericOwners_shown {user : Nat} (huser : user ≤ 2 ^ 53 - 1) :
    (∀ m : Metadata, m.ownerName = toString user →
      ('#' ∉ m.ownerZone.toList → Attributes.userIdOf Identity.passthrough m = .ok user) ∧
      ('#' ∈ m.ownerZone.toList → ∃ f, Attributes.userIdOf Identity.passthrough m = .error f ∧
        f.code? = some .ioFailure)) ∧
    (∀ {σ : Type} {g : Gateway σ} {w : World σ} {h : Handle} {p : Path} {session : Session} {y : σ}
      {m : Metadata}, g.identities = Identity.passthrough.registry →
      Gateway.pathFor w.inodes h = .ok p →
      g.backend.openSession.answer w.backend = (.ok session, y) →
      ((g.backend.stat session p.toText).answer y).1 = .ok m →
      m.ownerName = toString user → g.ShowsOwner w h m.ownerZone user) ∧
    ∀ {s : Settings} {machine : Machine} {base : Path} {g : Gateway Storage} {w : World Storage},
      s.OpensDisk machine base g w → ∀ steps : List (Gateway.Step Storage),
      (∀ step ∈ steps, step.Respects (Storage.OnDisk base.place s.zone)) →
      ∀ h p l entry, Gateway.pathFor (g.afterSteps w steps).inodes h = .ok p →
      (g.afterSteps w steps).backend = .disk l → l.disk.stat (base.under p).place = .ok entry →
      (base = .root → p = .root) → entry.owner = user →
      g.ShowsOwner (g.afterSteps w steps) h s.zone user := by
  refine ⟨fun m hname => ?_, fun names hp hopen hstat hname =>
    Gateway.showsOwner_of_stat names hp hopen hstat hname huser, ?_⟩
  · rw [Attributes.userIdOf_passthrough hname huser]
    exact ⟨fun plain => if_neg plain, fun marked => ⟨_, if_pos marked, rfl⟩⟩
  · intro s machine base g w opens steps respects h p l entry hp now stands reached howner
    subst howner
    exact opens.showsOwner respects hp now stands reached huser

/-- Settings for a directory of the disk in a zone. -/
def overDirectory (zone : String) : Settings :=
  { usual with
    backend := .local "/srv"
    rootPath := "/"
    zone := zone
    identityMode := .passthrough }

/-- A machine whose disk has one directory, which is empty. -/
def emptyMachine : Machine := ⟨Gateway.emptyDisk.backend.disk, [], .at 0⟩

theorem validate_overDirectory {zone : String} (h : zone ≠ "") :
    (overDirectory zone).validate = .ok (overDirectory zone) := by
  obtain ⟨host, port, -, -, -, owner, identities⟩ := (ok_of_ofEnvironment ofEnvironment_empty).1
  have named : ∀ directory, (overDirectory zone).backend = .local directory → directory ≠ "" := by
    rintro _ ⟨⟩
    decide
  have lawful : (overDirectory zone).Lawful :=
    ⟨host, port, named, ⟨[], (by decide : "/".toList = _)⟩, h, owner, identities⟩
  rw [validate, issues_eq_nil_iff.mpr lawful]

theorem opens_overDirectory :
    ∃ g w, (overDirectory "grid").OpensDisk emptyMachine Gateway.served g w := by
  have vacant := Gateway.emptyDisk_vacant
  have placed : Local.absolute [] "/srv" = Gateway.served.place := by decide +kernel
  have chosen :
      (overDirectory "grid").storage emptyMachine = .ok (.disk Gateway.emptyDisk.backend) :=
    congrArg (fun place =>
      Except.ok (Storage.disk { Gateway.emptyDisk.backend with root := place })) placed
  -- Both looks at the root of the service go well in the session that is opened for them.
  have shows := vacant.shows.withSessions ({} : Sessions).acquire.2
  obtain ⟨m, hstat, -⟩ := Local.stat_shown (s := 0) rfl shows vacant.inside (p := .root) rfl
    vacant.reads
  have hpermits := Local.root_readable (s := 0) rfl shows vacant.inside vacant.reads
  obtain ⟨w, opened⟩ : ∃ w, (Gateway.establish (Storage.backend Local.backend.kind)
      Identity.passthrough .fixed "/").answer { backend := .disk Gateway.emptyDisk.backend } =
        (.ok ⟨_, _, _, .root⟩, w) :=
    Gateway.establish_of_looks rfl rfl rfl (Storage.answer_dispatch_disk _ hstat)
      (Storage.answer_dispatch_disk _ hpermits)
  exact ⟨_, w, validate_overDirectory (by decide), ⟨"/srv", rfl, placed⟩, rfl, _, _, .fixed,
    chosen, rfl, opened⟩

/-- The disk of the machine, with the served directory in the hands of another user. -/
def handedOver : Disk :=
  { emptyMachine.disk with
    entries := emptyMachine.disk.entries.insert Gateway.served.place (Gateway.directoryOf 1000) }

theorem handedOver_stat :
    handedOver.stat Gateway.served.place = .ok (Gateway.directoryOf 1000) := by
  have passable : handedOver.Passable Path.root.place := ⟨_, rfl, rfl, Disk.Entry.allows_own rfl _⟩
  have isRoot : ∀ {q : Path}, q.contains .root → q = .root := fun hq =>
    Path.names_eq_nil_iff.mp (List.prefix_nil.mp (Path.contains_iff.mp hq))
  have unlinked : handedOver.Unlinked Gateway.served.place := by
    rintro e he target hlink
    obtain rfl : Gateway.directoryOf 1000 = e := Option.some.inj he
    cases hlink
  have found : handedOver.find .target Gateway.served.place = .ok Gateway.served.place :=
    Disk.find_child (p := .root) (n := ⟨"srv", by decide⟩) (fun hq => isRoot hq ▸ passable)
      (by decide) Gateway.emptyDisk_vacant.reads unlinked
  rw [Disk.stat, found]
  rfl

/-- The directory is handed over. -/
def handOver : Storage → Storage
  | .disk l => .disk { l with disk := handedOver }
  | .memory m => .memory m

/-- When another user becomes the owner of the served directory, the root shows that user. -/
theorem new_owner_shown : ∃ g w, (overDirectory "grid").OpensDisk emptyMachine Gateway.served g w ∧
    g.ShowsOwner (g.afterSteps w [.change handOver]) Handle.root "grid" 1000 := by
  obtain ⟨g, w, opens⟩ := opens_overDirectory
  obtain ⟨-, -, l, now, -⟩ := opens.passthrough
  have after : (g.afterSteps w [.change handOver]).backend =
      .disk { l with disk := handedOver } := congrArg handOver now
  have respects : ∀ step ∈ [Gateway.Step.change handOver],
      step.Respects (Storage.OnDisk Gateway.served.place (overDirectory "grid").zone) := by
    refine List.forall_mem_singleton.mpr ?_
    rintro _ ⟨l, rfl, hroot, hzone⟩
    exact ⟨_, rfl, hroot, hzone⟩
  obtain ⟨hpath, table⟩ := opens.openedAt.inodes_eq
  have isRoot : Path.root = g.rootPath := Except.ok.inj hpath
  have mounted : Gateway.pathFor w.inodes Handle.root = .ok .root := by
    rw [table, ← isRoot]
    exact (Gateway.pathFor_iff (Inodes.coherent_mounted _)).mpr (List.mem_singleton_self _)
  have small : 1000 ≤ 2 ^ 53 - 1 := by decide
  exact ⟨g, w, opens, (numericOwners_shown small).2.2 opens _ respects _ _ _ _ mounted after
    handedOver_stat (absurd · Gateway.emptyDisk_vacant.inside) rfl⟩

/-- A file of the user 1000, in a zone with a mark in it. -/
def markedFile : Metadata := ⟨"/report.csv", .file, 12, "1000", "a#b", .at 0, .at 0⟩

/-- The rules let a zone with a mark in it pass, in which a user has no user id. -/
theorem marked_zone_loses_owner :
    (overDirectory "a#b").validate = .ok (overDirectory "a#b") ∧
      (overDirectory "a#b").zone = "a#b" ∧
      (overDirectory "a#b").directory = .ok Identity.passthrough ∧
      Attributes.userIdOf Identity.passthrough markedFile =
        .error (Refusal.malformedIdentity "1000#a#b" "1000#a").failure := by
  refine ⟨validate_overDirectory (by decide), rfl, rfl, ?_⟩
  have hname : markedFile.ownerName = toString 1000 := rfl
  have cut : Identity.namePart (Identity.owner "1000" "a#b") = "1000#a" := by decide +kernel
  rw [Attributes.userIdOf_passthrough hname (by decide), if_pos (by decide)]
  exact congrArg (fun name => Except.error (Refusal.malformedIdentity "1000#a#b" name).failure) cut

end Settings

end InodeGateway
