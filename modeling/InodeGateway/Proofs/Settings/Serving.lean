import InodeGateway.Proofs.Backend.Storage
import InodeGateway.Proofs.Gateway.Beside
import InodeGateway.Proofs.Gateway.Density
import InodeGateway.Proofs.Gateway.Permanence
import InodeGateway.Proofs.Identity
import InodeGateway.Proofs.Path.Acceptance
import InodeGateway.Proofs.Settings.Rules

/-!
# Settings that can be served

Settings are looked at when they are told, and again by all that is made from them: the storage
reads the root as a path, the gateway opens it, and the owner of what it makes is looked for in the
directory of identities.  For a tree in memory the rules for settings leave one fault to the later
looks: a root that refers to the directory above.

## Main definitions

* `Memory.Household` — a tree in which all belongs to one owner and nothing was set past sessions
* `Gateway.Step.Serves` — requests are answered while the clock goes on
* `Gateway.Created` — a handle that was answered for a new object

## Main statements

* `Settings.storage_of_above` — a root that refers to the directory above is refused by the storage
* `Settings.opens_newTree` — over a new tree, a gateway opens at the root of the settings
* `Settings.served_of_ofEnvironment` — any other settings for a tree in memory are served, and the
  owner has the user id that stands for it by default
* `Settings.unserved_above` — settings that load, but are not served
-/

namespace InodeGateway

namespace Memory

variable {m : Memory} {owner : Owner} {p r : Path}

/-- All nodes belong to the owner of what is made, no failure is wanted and no right was taken. -/
structure Household (owner : Owner) (m : Memory) : Prop where
  calm : m.failures = {}
  full : m.overrides = {}
  maker : m.owner = owner
  owned : ∀ p node, m.nodes.get? p = some node →
    node.ownerName = owner.name ∧ node.ownerZone = owner.zone

namespace Household

theorem insert (h : Household owner m) (p : Path) (kind : Kind) (size : Num) :
    Household owner (m.insert p kind size m.owner) := by
  have rest : (m.insert p kind size m.owner).failures = m.failures ∧
      (m.insert p kind size m.owner).overrides = m.overrides ∧
      (m.insert p kind size m.owner).owner = m.owner := by
    unfold Memory.insert
    split <;> exact ⟨rfl, rfl, rfl⟩
  refine ⟨rest.1.trans h.calm, rest.2.1.trans h.full, rest.2.2.trans h.maker, ?_⟩
  intro r node hnode
  rw [get?_nodes_insert] at hnode
  split at hnode
  · cases hnode
    exact ⟨congrArg Owner.name h.maker, congrArg Owner.zone h.maker⟩
  · split at hnode
    · obtain ⟨before, hbefore, rfl⟩ := Option.map_eq_some_iff.mp hnode
      have linked := Node.Grows.link m.now p before
      rw [linked.ownerName, linked.ownerZone]
      exact h.owned r before hbefore
    · exact h.owned r node hnode

theorem makeDirectories (h : Household owner m) (p : Path) :
    Household owner (m.makeDirectories p) := by
  fun_induction m.makeDirectories p with
  | case1 => exact h
  | case2 => exact h.insert _ _ _
  | case3 p _ q _ ih =>
    have same : (m.makeDirectories q).owner = m.owner := ih.maker.trans h.maker.symm
    rw [← same]
    exact ih.insert _ _ _

theorem empty (owner : Owner) (capacityBytes : Num) (now : Instant) :
    Household owner (Memory.empty owner capacityBytes now) := by
  have bare : Household owner { owner := owner, capacityBytes := capacityBytes, now := now } :=
    ⟨rfl, rfl, rfl, by rintro p node ⟨⟩⟩
  exact bare.insert .root .directory 0

end Household

/-- Making directories makes the one that was asked for. -/
theorem kindAt?_makeDirectories_self (m : Memory) (p : Path) :
    (m.makeDirectories p).kindAt? p ≠ none := by
  unfold Memory.makeDirectories
  split
  · next h =>
    intro hnone
    exact kindAt?_eq_none_iff.mp hnone h
  · split <;> simp [kindAt?_insert]

end Memory

/-- The clock of a storage shows another time. -/
def Storage.setClock (now : Instant) : Storage → Storage
  | .memory m => .memory { m with now := now }
  | .disk l => .disk l

namespace Gateway

/-- Requests are answered while the clock goes on. -/
def Step.Serves : Step Storage → Prop
  | .request _ => True
  | .change f => ∃ now, f = Storage.setClock now
  | .plant _ _ => False

theorem Step.Serves.not_plants {step : Step Storage} (h : step.Serves) : ¬ step.Plants := by
  cases step with
  | plant h' text => exact fun _ => h
  | request r => exact id
  | change f => exact id

/-- A handle that one of the steps of a run answered for a new object. -/
def Created {σ : Type} (g : Gateway σ) (w : World σ) (steps : List (Step σ)) (h : Handle) : Prop :=
  ∃ earlier parent name kind owner mode later,
    steps = earlier ++ .request (.create parent name kind owner mode) :: later ∧
      ((g.create parent name kind owner mode).answer (g.afterSteps w earlier)).1 = .ok h

section OverStorage

variable {directory : Identity.Directory} {permissions : PermissionModel} {rootPath p : Path}
  {w : World Storage} {m : Memory} {owner : Owner} {h : Handle}

/-- The world of the tree that a storage holds. -/
def treeWorld (w : World Storage) (m : Memory) : World (Site Memory Unit) :=
  ⟨⟨m, (), 0⟩, w.inodes, w.journal, w.observed⟩

theorem holds_treeWorld (hw : w.backend = .memory m) : Storage.Holds (treeWorld w m) w := by
  rw [Storage.Holds, treeWorld, ← hw]

/-- What sessions, creations and the clock keep of the tree, a step that serves keeps. -/
theorem afterStep_tree {Q : Memory → Prop}
    (hsessions : ∀ m sessions, Q m → Q { m with sessions := sessions })
    (hcreate : ∀ m p kind, m.admits p = .ok () → Q m → Q (m.withObject p kind))
    (hclock : ∀ m now, Q m → Q { m with now := now }) {step : Step Storage} (serves : step.Serves)
    (hw : ∃ m, w.backend = .memory m ∧ Q m) :
    ∃ m, ((overStorage directory permissions rootPath).afterStep w step).backend = .memory m ∧
      Q m := by
  obtain ⟨m, hm, hQ⟩ := hw
  cases step with
  | request r =>
    have kept : Q _ := Preserves.after (g := besideTree (directory : Identity.Registry Unit)
      permissions rootPath) (preserves_besideTree hsessions hcreate) (w := treeWorld w m) hQ r
    obtain ⟨-, after⟩ := (mirrors_overStorage directory permissions rootPath).perform_agree r
      (treeWorld w m) w (holds_treeWorld hm)
    exact ⟨_, congrArg World.backend after, kept⟩
  | change f =>
    obtain ⟨now, rfl⟩ := serves
    refine ⟨_, ?_, hclock m now hQ⟩
    rw [afterStep, hm]
    rfl
  | plant h text => exact serves.elim

theorem afterSteps_tree {Q : Memory → Prop}
    (hsessions : ∀ m sessions, Q m → Q { m with sessions := sessions })
    (hcreate : ∀ m p kind, m.admits p = .ok () → Q m → Q (m.withObject p kind))
    (hclock : ∀ m now, Q m → Q { m with now := now }) {steps : List (Step Storage)}
    (serve : ∀ step ∈ steps, step.Serves) (hw : ∃ m, w.backend = .memory m ∧ Q m) :
    ∃ m, ((overStorage directory permissions rootPath).afterSteps w steps).backend = .memory m ∧
      Q m := by
  induction steps generalizing w with
  | nil => exact hw
  | cons step rest ih =>
    obtain ⟨hstep, hrest⟩ := List.forall_mem_cons.mp serve
    exact ih hrest (afterStep_tree hsessions hcreate hclock hstep hw)

/-- A household with an object at a path. -/
def Keeps (owner : Owner) (p : Path) (b : Storage) : Prop :=
  ∃ m, b = .memory m ∧ m.Household owner ∧ m.kindAt? p ≠ none

theorem Keeps.afterSteps (hw : Keeps owner p w.backend) {steps : List (Step Storage)}
    (serve : ∀ step ∈ steps, step.Serves) :
    Keeps owner p ((overStorage directory permissions rootPath).afterSteps w steps).backend := by
  refine Gateway.afterSteps_tree (Q := fun m => m.Household owner ∧ m.kindAt? p ≠ none)
    ?_ ?_ ?_ serve hw
  · rintro m sessions ⟨house, stands⟩
    exact ⟨⟨house.calm, house.full, house.maker, house.owned⟩, stands⟩
  · rintro m q kind - ⟨house, stands⟩
    exact ⟨house.insert q kind 0, Memory.kindAt?_insert_ne_none kind 0 m.owner stands⟩
  · rintro m now ⟨house, stands⟩
    exact ⟨⟨house.calm, house.full, house.maker, house.owned⟩, stands⟩

/-- A handle that was answered for a new object stands for an object of the household. -/
theorem create_told (dense : w.inodes.Dense) (hw : Keeps owner rootPath w.backend) {parent : Handle}
    {name kind : String} {maker : Principal} {mode : Num}
    (hok : (((overStorage directory permissions rootPath).create parent name kind maker mode).answer
      w).1 = .ok h) :
    ∃ p, (h, p) ∈ ((overStorage directory permissions rootPath).after w
        (.create parent name kind maker mode)).inodes.entries ∧
      Keeps owner p ((overStorage directory permissions rootPath).after w
        (.create parent name kind maker mode)).backend := by
  obtain ⟨m, hm, house, -⟩ := hw
  obtain ⟨same, after⟩ := (mirrors_overStorage (ι := Unit) directory permissions rootPath).create_agree
    parent name kind maker mode (treeWorld w m) w (holds_treeWorld hm)
  have made : Act.Triple _ ((besideTree (directory : Identity.Registry Unit) permissions
      rootPath).create parent name kind maker mode) _ _ :=
    create_beside (m := m) (i := ()) dense parent name kind maker mode
  have ends := made (treeWorld w m) ⟨⟨.refl m, rfl⟩, rfl⟩
  rw [Gateway.after, perform, Call.answer_map]
  rcases heq : ((besideTree (directory : Identity.Registry Unit) permissions rootPath).create parent
    name kind maker mode).answer (treeWorld w m) with ⟨f | made, v⟩ <;> rw [heq] at ends same after
  · rw [same] at hok
    cases hok
  · obtain rfl : made = h := Except.ok.inj (same.symm.trans hok)
    obtain ⟨p, kind, ⟨⟨still, htable⟩, -⟩, -, -, hmem⟩ := ends
    have table := congrArg World.inodes after
    have backend := congrArg World.backend after
    refine ⟨p, ?_, v.backend.storage, backend, ?_, ?_⟩
    · show (made, p) ∈ (Call.answer _ w).2.inodes.entries
      rw [table, htable]
      exact hmem
    · rw [still]
      have grown : (m.withObject p kind).Household owner := house.insert p kind 0
      exact ⟨grown.calm, grown.full, grown.maker, grown.owned⟩
    · rw [still]
      simp [Memory.kindAt?, Memory.get?_withObject]

/-- In a household whose owner has a user id, every object that stands for a handle shows it. -/
theorem getAttributes_told (coherent : w.inodes.Coherent) (hp : (h, p) ∈ w.inodes.entries)
    (hw : Keeps owner p w.backend) {id : Nat}
    (known : ∀ d : Metadata, d.ownerName = owner.name → d.ownerZone = owner.zone →
      Attributes.userIdOf directory d = .ok id) :
    ∃ a, (((overStorage directory permissions rootPath).getAttributes h).answer w).1 = .ok a ∧
      a.userId = id := by
  obtain ⟨m, hm, house, stands⟩ := hw
  obtain ⟨node, hnode⟩ : ∃ node, m.nodes.get? p = some node := by
    cases hnode : m.nodes.get? p with
    | none => simp [Memory.kindAt?, hnode] at stands
    | some node => exact ⟨node, rfl⟩
  obtain ⟨same, -⟩ := (mirrors_overStorage (ι := Unit) directory permissions
    rootPath).getAttributes_agree h (treeWorld w m) w (holds_treeWorld hm)
  have told : Act.Triple _ ((besideTree (directory : Identity.Registry Unit) permissions
      rootPath).getAttributes h) _ _ :=
    getAttributes_beside (m := m) (i := ()) (T := w.inodes) coherent hp
      (Memory.checkFailure_calm house.calm p) hnode
  have ends := told (treeWorld w m) ⟨⟨.refl m, rfl⟩, rfl⟩
  have owned := house.owned p node hnode
  have hid : userIdFrom (directory : Identity.Registry Unit) () (Memory.metadataOf p node) = .ok id :=
    known _ owned.1 owned.2
  rw [same]
  rcases heq : ((besideTree (directory : Identity.Registry Unit) permissions
    rootPath).getAttributes h).answer (treeWorld w m) with ⟨f | a, v⟩ <;> rw [heq] at ends
  · obtain ⟨⟨⟨f', hf'⟩, -⟩, -⟩ := ends
    rw [hid] at hf'
    cases hf'
  · obtain ⟨⟨id', hid', rfl⟩, -⟩ := ends
    exact ⟨_, rfl, Except.ok.inj (hid'.symm.trans hid)⟩

/-- The root, and whatever was made through the gateway, has the user id of the owner. -/
theorem userId_told (dense : (overStorage directory permissions rootPath).DenseAt w.inodes)
    (hw : Keeps owner rootPath w.backend) {id : Nat}
    (known : ∀ d : Metadata, d.ownerName = owner.name → d.ownerZone = owner.zone →
      Attributes.userIdOf directory d = .ok id)
    {steps : List (Step Storage)} (serve : ∀ step ∈ steps, step.Serves)
    (hh : h = Handle.root ∨ Created (overStorage directory permissions rootPath) w steps h) :
    ∃ a, (((overStorage directory permissions rootPath).getAttributes h).answer
      ((overStorage directory permissions rootPath).afterSteps w steps)).1 = .ok a ∧
        a.userId = id := by
  have denseAfter : ∀ {steps : List (Step Storage)}, (∀ step ∈ steps, step.Serves) →
      (overStorage directory permissions rootPath).DenseAt
        ((overStorage directory permissions rootPath).afterSteps w steps).inodes :=
    fun serve => dense.afterSteps fun step hstep => (serve step hstep).not_plants
  have coherent := (denseAfter serve).dense.coherent
  rcases hh with rfl | ⟨earlier, parent, name, kind, maker, mode, later, rfl, hok⟩
  · exact getAttributes_told coherent (denseAfter serve).rooted (hw.afterSteps serve) known
  · obtain ⟨before, serveNow⟩ := List.forall_mem_append.mp serve
    obtain ⟨-, after⟩ := List.forall_mem_cons.mp serveNow
    obtain ⟨p, hmem, stands⟩ := create_told (denseAfter before).dense (hw.afterSteps before) hok
    rw [afterSteps_append] at coherent ⊢
    -- The new handle is kept by all that follows, and so is the object.
    have serves : ∀ step ∈ [Step.request (σ := Storage) (.create parent name kind maker mode)],
        step.Serves := by simp [Step.Serves]
    have now := (denseAfter before).afterSteps fun step hstep => (serves step hstep).not_plants
    have grown := afterSteps_grownFrom ⟨now.dense.coherent, now.rooted, List.prefix_rfl⟩ later
    exact getAttributes_told coherent (grown.grown.subset hmem) (stands.afterSteps after) known

end OverStorage

end Gateway

namespace Settings

variable {env : Environment} {s : Settings} {machine : Machine} {p : Path}

/-- The tree that settings begin with. -/
def newTree (s : Settings) (machine : Machine) (p : Path) : Memory :=
  (Memory.empty ⟨s.defaultOwner, s.zone⟩ (.ofNat Memory.usualCapacity) machine.now).makeDirectories p

theorem household_newTree (s : Settings) (machine : Machine) (p : Path) :
    (s.newTree machine p).Household ⟨s.defaultOwner, s.zone⟩ :=
  (Memory.Household.empty _ _ _).makeDirectories p

theorem storage_eq (tree : s.backend = .memory) (machine : Machine) :
    s.storage machine = match Path.ofText s.rootPath with
      | .ok p => .ok (.memory (s.newTree machine p))
      | .error refusal => .error refusal := by
  rw [storage, tree]
  simp only [Memory.addDirectories]
  cases Path.ofText s.rootPath <;> rfl

/-- A root that refers to the directory above passes the rules for settings, and the storage
refuses it. -/
theorem storage_of_above (told : ofEnvironment env = .ok s) (tree : s.backend = .memory)
    (above : Path.NamesAbove s.rootPath) (machine : Machine) :
    s.storage machine = .error (Refusal.parentReference s.rootPath) := by
  obtain ⟨rest, hroot⟩ := (ok_of_ofEnvironment told).1.root
  rw [storage_eq tree, Path.ofText_of_above (by rw [hroot]; rfl) (nul_not_mem_root told) above]

/-- Any other root spells a path. -/
theorem ofText_root (told : ofEnvironment env = .ok s) (plain : ¬ Path.NamesAbove s.rootPath) :
    ∃ p, Path.ofText s.rootPath = .ok p := by
  obtain ⟨rest, hroot⟩ := (ok_of_ofEnvironment told).1.root
  exact Path.ofText_eq_ok_iff.mpr ⟨by rw [hroot]; rfl, nul_not_mem_root told, plain⟩

theorem readMode_eq (env : Environment) (backend : BackendChoice) :
    readMode env backend = .static ∨ readMode env backend = .passthrough := by
  unfold readMode
  generalize Environment.word _ = w
  by_cases hs : w = "static"
  · exact .inl (if_pos hs)
  by_cases hp : w = "passthrough"
  · exact .inr ((if_neg hs).trans (if_pos hp))
  cases backend with
  | «local» d => exact .inr ((if_neg hs).trans (if_neg hp))
  | _ => exact .inl ((if_neg hs).trans (if_neg hp))

theorem directory_ok (told : ofEnvironment env = .ok s) :
    ∃ directory, s.directory = .ok directory := by
  obtain ⟨-, -, -, -, -, mode, -⟩ := ok_of_ofEnvironment told
  rw [Settings.directory, mode]
  rcases readMode_eq env s.backend with h | h <;> exact ⟨_, by rw [h]⟩

/-- Unless a map is given, a fixed directory knows the default owner under the default identity. -/
theorem userIdOf_default (told : ofEnvironment env = .ok s)
    (unmapped : env.value? "GRIDVFS_IDENTITY_MAP" = none) (fixed : s.identityMode = .static)
    {directory : Identity.Directory} (hdirectory : s.directory = .ok directory) (d : Metadata)
    (hname : d.ownerName = s.defaultOwner) (hzone : d.ownerZone = s.zone) :
    Attributes.userIdOf directory d = .ok 10000 := by
  obtain ⟨-, -, -, -, -, -, identities⟩ := ok_of_ofEnvironment told
  rw [readIdentities, unmapped] at identities
  rw [Settings.directory, fixed, ← Except.ok.inj identities] at hdirectory
  obtain rfl := Except.ok.inj hdirectory
  have resolves : (Identity.static (OrderedMap.ofList
      [(Identity.owner s.defaultOwner s.zone, defaultIdentity)])).resolve
        (Identity.owner d.ownerName d.ownerZone) = .ok (some defaultIdentity) := by
    rw [hname, hzone]
    simp [Identity.static, OrderedMap.ofList, OrderedMap.get?_insert]
  have read : Identity.userId (Identity.owner d.ownerName d.ownerZone) defaultIdentity =
      .ok 10000 :=
    Identity.userId_eq_ok_iff.mpr ⟨Text.spells_toString 10000, by decide⟩
  exact Attributes.userIdOf_of_resolve resolves read

/-- Over a new tree, a gateway opens at the directory with which the tree begins. -/
theorem opens_newTree (hp : Path.ofText s.rootPath = .ok p) (machine : Machine)
    (directory : Identity.Directory) (permissions : PermissionModel) :
    ∃ w, (Gateway.establish (Storage.backend Memory.backend.kind) directory permissions
        s.rootPath).answer { backend := .memory (s.newTree machine p) } =
          (.ok (Gateway.overStorage directory permissions p), w) ∧
      Gateway.Keeps ⟨s.defaultOwner, s.zone⟩ p w.backend := by
  have house := s.household_newTree machine p
  have stands : (s.newTree machine p).kindAt? p ≠ none := Memory.kindAt?_makeDirectories_self _ p
  obtain ⟨node, hnode⟩ : ∃ node, (s.newTree machine p).nodes.get? p = some node := by
    cases hnode : (s.newTree machine p).nodes.get? p with
    | none => simp [Memory.kindAt?, hnode] at stands
    | some node => exact ⟨node, rfl⟩
  have readable : (((s.newTree machine p).overrides.get? p).getD {}).read = true := by
    rw [house.full]
    rfl
  let start : World Storage := { backend := .memory (s.newTree machine p) }
  let tree' : World (Site Memory Unit) := Gateway.treeWorld start (s.newTree machine p)
  have mounts : Act.Triple _ (Gateway.mount Memory.backend.beside
      (directory : Identity.Registry Unit).beside permissions s.rootPath) _ _ :=
    Gateway.mount_beside house.calm hnode readable (i := ()) hp
  have ends := mounts tree' ⟨⟨.refl _, rfl⟩, rfl⟩
  -- The storage does what the tree does that stands in its place.
  obtain ⟨same, after⟩ := Gateway.mount_agree
    (Gateway.mirrors_overStorage (ι := Unit) directory permissions) s.rootPath tree' start rfl
  rcases heq : (Gateway.mount Memory.backend.beside (directory : Identity.Registry Unit).beside
    permissions s.rootPath).answer tree' with ⟨f | q, v⟩ <;> rw [heq] at ends same after
  · exact ends.elim
  · obtain ⟨still, rfl⟩ := ends
    refine ⟨⟨.memory v.backend.storage, v.inodes, v.journal, v.observed⟩, ?_, _, rfl, ?_, ?_⟩
    · rw [Gateway.establish_eq_map, Call.answer_map]
      exact Prod.ext (congrArg (Except.map _) same) after
    · rw [still]
      exact ⟨house.calm, house.full, house.maker, house.owned⟩
    · rw [still]
      exact stands

/-- Settings for a tree in memory are served unless their root refers to the directory above: there
is a storage, a directory of identities, and a gateway that opens the root.  While it serves
nothing but requests, the default owner has its user id on the root and on all that is made. -/
theorem served_of_ofEnvironment (told : ofEnvironment env = .ok s) (tree : s.backend = .memory)
    (plain : ¬ Path.NamesAbove s.rootPath) (machine : Machine) (permissions : PermissionModel) :
    ∃ storage directory g w, s.storage machine = .ok storage ∧ s.directory = .ok directory ∧
      (Gateway.establish (Storage.backend storage.kind) directory permissions s.rootPath).answer
        { backend := storage } = (.ok g, w) ∧
      (env.value? "GRIDVFS_IDENTITY_MAP" = none → s.identityMode = .static →
        ∀ steps : List (Gateway.Step Storage), (∀ step ∈ steps, step.Serves) →
        ∀ h, h = Handle.root ∨ g.Created w steps h →
          ∃ a, ((g.getAttributes h).answer (g.afterSteps w steps)).1 = .ok a ∧ a.userId = 10000) := by
  obtain ⟨p, hp⟩ := ofText_root told plain
  obtain ⟨directory, hdirectory⟩ := directory_ok told
  obtain ⟨w, opened, keeps⟩ := opens_newTree hp machine directory permissions
  have openedAt : (Gateway.overStorage directory permissions p).OpenedAt s.rootPath w :=
    ⟨_, _, _, _, rfl, opened⟩
  refine ⟨.memory (s.newTree machine p), directory, _, w, by rw [storage_eq tree, hp], hdirectory,
    opened, ?_⟩
  intro unmapped fixed steps serve h hh
  exact Gateway.userId_told openedAt.denseAt keeps (userIdOf_default told unmapped fixed hdirectory)
    serve hh

/-- The settings of an environment in which nothing is set. -/
def usual : Settings where
  host := "127.0.0.1"
  port := 4400
  logLevel := .info
  metricsEnabled := true
  backend := .memory
  rootPath := "/tempZone/home/rods"
  zone := "tempZone"
  defaultOwner := "rods"
  identityMode := .static
  identities := OrderedMap.ofList [("rods#tempZone", "10000")]

theorem ofEnvironment_empty : ofEnvironment {} = .ok usual := ok_of_toOption (by decide +kernel)

/-- A machine with an empty disk. -/
def bareMachine : Machine :=
  ⟨{ entries := {}, userId := 0, now := .at 0, space := ⟨0, 0⟩ }, [], .at 0⟩

/-- The gateway of the usual settings, and the handle of a first file in its root. -/
theorem created_usual :
    ((usual.storage bareMachine).toOption.bind fun storage =>
      usual.directory.toOption.bind fun directory =>
        let opened := (Gateway.establish (Storage.backend storage.kind) directory .fixed
          usual.rootPath).answer { backend := storage }
        opened.1.toOption.bind fun g =>
          ((g.create 1 "notes" "file" ⟨0, 0⟩ 420).answer opened.2).1.toOption) = some 2 := by
  decide +kernel

/-- The usual settings are served: the root and the first file in it belong to the default user. -/
theorem usual_served :
    ∃ storage directory g w, usual.storage bareMachine = .ok storage ∧
      usual.directory = .ok directory ∧
      (Gateway.establish (Storage.backend storage.kind) directory .fixed usual.rootPath).answer
        { backend := storage } = (.ok g, w) ∧
      ∀ h ∈ [Handle.root, 2], ∃ a, ((g.getAttributes h).answer
        (g.afterSteps w [.request (.create 1 "notes" "file" ⟨0, 0⟩ 420)])).1 = .ok a ∧
        a.userId = 10000 := by
  obtain ⟨storage, directory, g, w, hstorage, hdirectory, opened, told⟩ :=
    served_of_ofEnvironment ofEnvironment_empty rfl (by decide) bareMachine .fixed
  refine ⟨storage, directory, g, w, hstorage, hdirectory, opened, ?_⟩
  have made := created_usual
  rw [hstorage, hdirectory] at made
  simp only [Except.toOption, Option.bind_some, opened] at made
  have serves : ∀ step ∈ [Gateway.Step.request (σ := Storage)
      (.create 1 "notes" "file" ⟨0, 0⟩ 420)], step.Serves := by
    simp [Gateway.Step.Serves]
  intro h hh
  refine told rfl rfl _ serves h ?_
  rcases List.mem_pair.mp hh with rfl | rfl
  · exact .inl rfl
  · exact .inr ⟨[], 1, "notes", "file", ⟨0, 0⟩, 420, [], rfl, ok_of_toOption made⟩

/-- Settings that load: the root they name begins with a slash. -/
theorem unserved_above :
    ∃ s, ofEnvironment ⟨[("GRIDVFS_ROOT_PATH", "/a/../b")]⟩ = .ok s ∧ s.backend = .memory ∧
      ∀ machine, s.storage machine = .error (Refusal.parentReference "/a/../b") := by
  have told : ofEnvironment ⟨[("GRIDVFS_ROOT_PATH", "/a/../b")]⟩ =
      .ok { usual with rootPath := "/a/../b" } := ok_of_toOption (by decide +kernel)
  exact ⟨_, told, rfl, storage_of_above told rfl (by decide)⟩

end Settings

end InodeGateway
