import InodeGateway.Proofs.Attributes
import InodeGateway.Proofs.Gateway.Confinement
import InodeGateway.Proofs.Gateway.Naming
import InodeGateway.Proofs.Memory.Calm
import InodeGateway.Proofs.Memory.Tree

/-!
# Listings are coherent

Over a tree in memory a directory is listed, its entries are looked up by their names, and from the
entries one goes up again.  All of these ways lead to the same handles, and going them changes
nothing.

## Main definitions

* `Gateway.Describes` — an entry that describes the child at a path
* `Gateway.Asks` — the requests that a listing suggests, and their answers
* `Gateway.CoherentListing` — what clients see of a listing

## Main statements

* `Gateway.list_triple` — what a listing tells, and what it keeps
* `Gateway.OpenedAt.afterSteps_coherentListing` — every listing that succeeds is coherent
-/

namespace InodeGateway

section Lists

variable {α β γ : Type} {R : α → β → Prop} {xs : List α} {ys : List β}

theorem exists_of_mem_right (h : List.Forall₂ R xs ys) {y : β} (hy : y ∈ ys) :
    ∃ x ∈ xs, R x y := by
  induction h with
  | nil => cases hy
  | @cons x y' xs ys hxy _ ih =>
    rcases List.mem_cons.mp hy with rfl | hy
    · exact ⟨x, List.mem_cons_self, hxy⟩
    · obtain ⟨z, hz, hzy⟩ := ih hy
      exact ⟨z, List.mem_cons_of_mem _ hz, hzy⟩

/-- What tells different members of the left list apart comes once on the right. -/
theorem nodup_map_right {f : β → γ} (h : List.Forall₂ R xs ys) (hxs : xs.Nodup)
    (apart : ∀ x ∈ xs, ∀ x' ∈ xs, ∀ y y', R x y → R x' y' → f y = f y' → x = x') :
    (ys.map f).Nodup := by
  induction h with
  | nil => exact List.nodup_nil
  | @cons x y xs ys hxy rest ih =>
    obtain ⟨hx, hxs⟩ := List.nodup_cons.mp hxs
    have later : ∀ x ∈ xs, ∀ x' ∈ xs, ∀ y y', R x y → R x' y' → f y = f y' → x = x' :=
      fun x hx x' hx' => apart x (List.mem_cons_of_mem _ hx) x' (List.mem_cons_of_mem _ hx')
    refine List.nodup_cons.mpr ⟨fun hy => ?_, ih hxs later⟩
    obtain ⟨y', hy', heq⟩ := List.mem_map.mp hy
    obtain ⟨x', hx', hxy'⟩ := exists_of_mem_right rest hy'
    rw [apart x List.mem_cons_self x' (List.mem_cons_of_mem _ hx') y y' hxy hxy' heq.symm] at hx
    exact hx hx'

end Lists

namespace Gateway

section OverTree

variable {directory : Identity.Directory} {permissions : PermissionModel} {rootPath : Path}
  {m : Memory} {t t' : Inodes} {h : Handle} {p : Path} {K : Inodes → Prop}

/-- The entry describes the object at a path: under its name and its handle, with its attributes. -/
structure Describes (directory : Identity.Directory) (permissions : PermissionModel) (m : Memory)
    (t : Inodes) (p : Path) (e : DirectoryEntry) : Prop where
  name : e.name = p.lastName
  handle : (e.handle, p) ∈ t.entries
  attributes : ∃ node id, m.nodes.get? p = some node ∧
    Attributes.userIdOf directory (Memory.metadataOf p node) = .ok id ∧
    e.attributes = Attributes.shown permissions e.handle (Memory.metadataOf p node) id

/-- The owner of the object at a path has no user id. -/
def Unowned (directory : Identity.Directory) (m : Memory) (p : Path) : Prop :=
  ∃ node f, m.nodes.get? p = some node ∧
    Attributes.userIdOf directory (Memory.metadataOf p node) = .error f

theorem Describes.grows {e : DirectoryEntry} (he : Describes directory permissions m t p e)
    (grown : t.entries <+: t'.entries) : Describes directory permissions m t' p e :=
  ⟨he.name, grown.subset he.handle, he.attributes⟩

/-- There is one description of a child. -/
theorem Describes.unique (ht : t.Coherent) {e e' : DirectoryEntry}
    (he : Describes directory permissions m t p e) (he' : Describes directory permissions m t p e') :
    e' = e := by
  obtain ⟨name, handle, attributes⟩ := e
  obtain ⟨name', handle', attributes'⟩ := e'
  obtain ⟨hname, hmem, node, id, hnode, hid, hshown⟩ := he
  obtain ⟨hname', hmem', node', id', hnode', hid', hshown'⟩ := he'
  simp only at hname hname' hmem hmem' hshown hshown'
  cases hnode.symm.trans hnode'
  cases hid.symm.trans hid'
  rw [hname, hname', hshown, hshown', ht.handle_unique hmem hmem']

/-- The table is dense and `K` holds of it; the tree in memory is still `m`. -/
abbrev Looking (m : Memory) (s : Session) (K : Inodes → Prop) : Assertion Memory :=
  fun b t => Memory.InUse m s b ∧ t.Dense ∧ K t

/-- Sight of a path keeps the table dense and gives the path its handle. -/
theorem sight_looking (s : Session) (hK : ∀ t, t.Dense → K t → K (t.sightPath p).2) :
    Act.Triple (Looking m s K) (sight p.toText)
      (fun h => Looking m s fun t => (h, p) ∈ t.entries ∧ K t) fun _ _ _ => False := by
  refine .explain (.table_ok ?_)
  rintro b t ⟨inUse, ht, hKt⟩
  obtain ⟨h, hh⟩ := ht.sightPath_ok p
  have hmem := ht.coherent.mem_of_sightPath hh
  rw [Inodes.sight, Path.ofText_toText]
  exact ⟨h, _, Prod.ext hh rfl, inUse, ht.sightPath p, hmem, hK t ht hKt⟩

/-- A child that is there is found. -/
theorem statOptional_looking (calm : m.failures = {}) (s : Session) {node : Node}
    (hnode : m.nodes.get? p = some node) :
    Act.Triple (Looking m s K)
      ((overTree directory permissions rootPath).statOptional s p.toText)
      (fun found => Looking m s fun t => found = some (Memory.metadataOf p node) ∧ K t)
      fun _ _ _ => False := by
  have found : Act.Triple (Looking m s K) (Act.call (Memory.backend.stat s p.toText))
      (fun found => Looking m s fun t => found = Memory.metadataOf p node ∧ K t)
      fun _ _ _ => False := by
    refine (Memory.stat_triple calm s p).consequence (fun _ _ h => h) ?_ ?_
    · rintro _ b t ⟨⟨node', hnode', rfl⟩, inUse, ht, hKt⟩
      cases hnode.symm.trans hnode'
      exact ⟨inUse, ht, rfl, hKt⟩
    · rintro f b t ⟨-, -, hnone, -⟩
      rw [hnode] at hnone
      cases hnone
  refine .orMissing (.map (found.strengthen_post ?_)) (fun _ _ _ _ h => h.elim) fun _ _ _ _ h => h
  rintro _ b t ⟨inUse, ht, rfl, hKt⟩
  exact ⟨inUse, ht, rfl, hKt⟩

/-- Every child is there and gets an entry; only a child whose owner has no user id can be in the
way. -/
theorem entries_triple (calm : m.failures = {}) (s : Session) {children : List Path}
    (stand : ∀ q ∈ children, m.kindAt? q ≠ none)
    (hK : ∀ t, t.Dense → ∀ q ∈ children, K t → K (t.sightPath q).2) :
    Act.Triple (Looking m s K)
      ((overTree directory permissions rootPath).entries s (children.map Path.toText))
      (fun l => Looking m s fun t =>
        List.Forall₂ (Describes directory permissions m t) children l ∧ K t)
      (fun _ b _ => Memory.InUse m s b ∧ ∃ q ∈ children, Unowned directory m q) := by
  induction children generalizing K with
  | nil =>
    refine .pure ?_
    rintro b t ⟨inUse, ht, hKt⟩
    exact ⟨inUse, ht, .nil, hKt⟩
  | cons q rest ih =>
    obtain ⟨node, hnode⟩ : ∃ node, m.nodes.get? q = some node := by
      have hq := stand q List.mem_cons_self
      simpa [Memory.kindAt?, Option.ne_none_iff_exists'] using hq
    rw [List.map_cons, entries]
    refine .bind ((statOptional_looking calm s hnode).weaken_fails fun _ _ _ h => h.elim)
      fun found => ?_
    have apart : ∀ b t, Looking m s (fun t => found = some (Memory.metadataOf q node) ∧ K t) b t →
        Looking m s K b t ∧ found = some (Memory.metadataOf q node) := by
      rintro b t ⟨inUse, ht, hfound, hKt⟩
      exact ⟨⟨inUse, ht, hKt⟩, hfound⟩
    refine Act.Triple.weaken_pre (.assuming fun hfound => ?_) apart
    subst hfound
    have sighted := sight_looking (m := m) s fun t ht => hK t ht q List.mem_cons_self
    refine .bind (sighted.weaken_fails fun _ _ _ h => h.elim) fun h => ?_
    refine .check_bind (Spelling.name_toText q) ?_
    refine .bind ((Attributes.ofMetadata_triple directory permissions h _).weaken_fails ?_)
      fun a => ?_
    · rintro f b t ⟨hf, inUse, -⟩
      exact ⟨inUse, q, List.mem_cons_self, node, f, hnode, hf⟩
    -- The entry stays true while those of the other children are made.
    refine .bind (((ih (fun r hr => stand r (List.mem_cons_of_mem _ hr))
      (K := fun t => Describes directory permissions m t q ⟨q.lastName, h, a⟩ ∧ K t) ?_).consequence
      ?_ (fun _ _ _ h => h) ?_)) fun l => .pure ?_
    · rintro t ht r hr ⟨he, hKt⟩
      exact ⟨he.grows (t.entries_prefix_sightPath r), hK t ht r (List.mem_cons_of_mem _ hr) hKt⟩
    · rintro b t ⟨⟨hid, ha⟩, inUse, ht, hmem, hKt⟩
      exact ⟨inUse, ht, ⟨rfl, hmem, node, _, hnode, hid, ha⟩, hKt⟩
    · rintro f b t ⟨inUse, r, hr, unowned⟩
      exact ⟨inUse, r, List.mem_cons_of_mem _ hr, unowned⟩
    · rintro b t ⟨inUse, ht, hl, he, hKt⟩
      exact ⟨inUse, ht, .cons he hl, hKt⟩

/-- Where it is known what a handle stands for, that is found. -/
theorem resolve_known {pre : Assertion Memory} {fails : Failure → Assertion Memory}
    (known : ∀ b t, pre b t → t.Coherent ∧ (h, p) ∈ t.entries) :
    Act.Triple pre (resolve h) (fun p' b t => pre b t ∧ p' = p) fails := by
  refine .look fun b t hpre => ?_
  obtain ⟨ht, hmem⟩ := known b t hpre
  rw [(pathFor_iff ht).mpr hmem]
  exact ⟨fun p' hp' => ⟨hpre, (Except.ok.inj hp').symm⟩, nofun⟩

/-- A directory of which all owners have user ids is listed child by child, in the order in which
they came. -/
theorem list_triple (hm : m.Reachable) (calm : m.failures = {})
    (hK : ∀ t, t.Dense → ∀ q ∈ m.childrenAt p, K t → K (t.sightPath q).2) :
    Act.Triple (fun b t => Memory.Still m b ∧ t.Dense ∧ (h, p) ∈ t.entries ∧ K t)
      ((overTree directory permissions rootPath).list h)
      (fun l b t => Memory.Still m b ∧ m.kindAt? p = some .directory ∧ t.Dense ∧
        List.Forall₂ (Describes directory permissions m t) (m.childrenAt p) l ∧ K t)
      (fun _ b _ => Memory.Still m b ∧ (m.kindAt? p ≠ some .directory ∨
        ∃ q ∈ m.childrenAt p, Unowned directory m q)) := by
  refine run_triple (fun _ _ _ h => h) (.bind (resolve_known (p := p) ?_) fun p' =>
    .assuming fun hp => ?_)
  · rintro b t ⟨-, ht, hmem, -⟩
    exact ⟨ht.coherent, hmem⟩
  subst hp
  have told : ∀ s, Act.Triple (Looking m s K) (do
      let children ← Act.call (Memory.backend.list s p'.toText)
      (overTree directory permissions rootPath).entries s children)
      (fun l => Looking m s fun t => m.kindAt? p' = some .directory ∧
        List.Forall₂ (Describes directory permissions m t) (m.childrenAt p') l ∧ K t)
      (fun _ b _ => Memory.InUse m s b ∧ (m.kindAt? p' ≠ some .directory ∨
        ∃ q ∈ m.childrenAt p', Unowned directory m q)) := by
    intro s
    refine .bind ((Memory.list_triple calm s p').weaken_fails fun _ _ _ h => ⟨h.1, .inl h.2⟩)
      fun texts => ?_
    refine Act.Triple.weaken_pre (.assuming fun htexts => ?_) fun b t ⟨htexts, h⟩ => ⟨h, htexts⟩
    obtain ⟨hdirectory, rfl⟩ := htexts
    refine (entries_triple calm s (fun q hq => ((hm.children p').2 q hq).2) hK).consequence
      (fun _ _ h => h) (fun l b t ⟨inUse, ht, h⟩ => ⟨inUse, ht, hdirectory, h⟩) fun _ _ _ h =>
      ⟨h.1, .inr h.2⟩
  refine (Memory.session_triple told).consequence ?_ ?_ fun _ _ _ h => h
  · rintro b t ⟨still, ht, -, hKt⟩
    exact ⟨still, ht, hKt⟩
  · rintro l b t ⟨still, ht, hdirectory, hl⟩
    exact ⟨still, hdirectory, ht, hl⟩

/-- The tree in memory is still `m`, and the table is still `T`. -/
abbrev Unchanged (m : Memory) (T : Inodes) : Assertion Memory := fun b t => Memory.Still m b ∧ t = T

/-- The action answers `x` and changes neither the tree nor the table. -/
abbrev Reads {α : Type} (m : Memory) (T : Inodes) (a : Act Memory α) (x : α) : Prop :=
  Act.Triple (Unchanged m T) a (fun x' b t => Unchanged m T b t ∧ x' = x) fun _ _ _ => False

/-- What is read within an operation, the operation reads. -/
theorem Reads.run {α : Type} {T : Inodes} {operation : Operation} {context : Journal.Fields}
    {a : Act Memory α} {x : α} (ha : Reads m T a x) :
    Reads m T (Gateway.run operation context a) x :=
  run_triple (fun _ _ _ h => h) ha

theorem Reads.map {α β : Type} {T : Inodes} {a : Act Memory α} {x : α} (ha : Reads m T a x)
    (f : α → β) : Reads m T (f <$> a) (f x) :=
  Act.Triple.map (ha.strengthen_post fun _ _ _ ⟨h, hx⟩ => ⟨h, congrArg f hx⟩)

/-- The directory at a path within the root was listed under a handle. -/
structure Listed (directory : Identity.Directory) (permissions : PermissionModel) (rootPath : Path)
    (m : Memory) (t : Inodes) (h : Handle) (p : Path) (l : List DirectoryEntry) : Prop where
  dense : t.Dense
  registered : (h, p) ∈ t.entries
  within : rootPath.contains p
  isDirectory : m.kindAt? p = some .directory
  entries : List.Forall₂ (Describes directory permissions m t) (m.childrenAt p) l

namespace Listed

variable {T : Inodes} {l : List DirectoryEntry} {e : DirectoryEntry}

/-- An entry stands for a child, which is below the directory and not the root. -/
theorem child (listed : Listed directory permissions rootPath m T h p l) (hm : m.Reachable)
    (he : e ∈ l) : ∃ n, p.child n ∈ m.childrenAt p ∧
      Describes directory permissions m T (p.child n) e ∧ e.name = n.text ∧
      p.child n ≠ rootPath := by
  obtain ⟨q, hq, hdescribes⟩ := exists_of_mem_right listed.entries he
  obtain ⟨n, rfl⟩ := Path.exists_child_of_parent? ((hm.children p).2 q hq).1
  refine ⟨n, hq, hdescribes, hdescribes.name.trans (Path.lastName_child p n), fun heq => ?_⟩
  exact Path.not_contains_of_parent?_eq (Path.parent?_child p n) (heq ▸ listed.within)

theorem reads_sightPath (listed : Listed directory permissions rootPath m T h p l) {k : Handle}
    {q : Path} (hmem : (k, q) ∈ T.entries) : Reads m T (sightPath q) k := by
  refine .explain (.table fun b t ⟨still, ht⟩ => ?_)
  subst ht
  rw [Inodes.sightPath_of_some (listed.dense.coherent.handleGet?_iff.mpr hmem)]
  exact ⟨fun x hx => ⟨⟨still, rfl⟩, (Except.ok.inj hx).symm⟩, nofun⟩

/-- From a child one goes up to the directory. -/
theorem reads_parentHandle (listed : Listed directory permissions rootPath m T h p l) {n : Name}
    (hne : p.child n ≠ rootPath) :
    Reads m T ((overTree directory permissions rootPath).parentHandle (p.child n)) h := by
  have elsewhere : p.child n ≠ (overTree directory permissions rootPath).rootPath := hne
  have within : (overTree directory permissions rootPath).rootPath.contains p := listed.within
  rw [parentHandle, if_neg elsewhere, Path.parent?_child]
  simp only [within, if_true]
  exact listed.reads_sightPath listed.registered

theorem reads_resolve (listed : Listed directory permissions rootPath m T h p l) {k : Handle}
    {q : Path} (hmem : (k, q) ∈ T.entries) : Reads m T (resolve k) q :=
  resolve_known fun _ _ ⟨_, ht⟩ => ht ▸ ⟨listed.dense.coherent, hmem⟩

/-- Asked again, the directory is listed alike: all that is in it has its handle already. -/
theorem reads_list (listed : Listed directory permissions rootPath m T h p l) (hm : m.Reachable)
    (calm : m.failures = {}) : Reads m T ((overTree directory permissions rootPath).list h) l := by
  have described : ∀ q ∈ m.childrenAt p, ∃ e, Describes directory permissions m T q e := by
    intro q hq
    obtain ⟨e, -, he⟩ := exists_of_mem_right (R := flip _) (List.Forall₂.flip listed.entries) hq
    exact ⟨e, he⟩
  have known : ∀ t, t.Dense → ∀ q ∈ m.childrenAt p, t = T → (t.sightPath q).2 = T := by
    rintro t - q hq rfl
    obtain ⟨e, he⟩ := described q hq
    rw [Inodes.sightPath_of_some (listed.dense.coherent.handleGet?_iff.mpr he.handle)]
  refine (list_triple (K := (· = T)) hm calm known).consequence ?_ ?_ ?_
  · rintro b t ⟨still, rfl⟩
    exact ⟨still, listed.dense, listed.registered, rfl⟩
  · rintro l' b t ⟨still, -, -, hl', rfl⟩
    refine ⟨⟨still, rfl⟩, List.right_unique_forall₂' ?_ hl' listed.entries⟩
    intro q e e' he he'
    exact he'.unique listed.dense.coherent he
  · rintro f b t ⟨-, notDirectory | ⟨q, hq, node, f', hnode, hf'⟩⟩
    · exact notDirectory listed.isDirectory
    · obtain ⟨e, he⟩ := described q hq
      obtain ⟨node', id, hnode', hid, -⟩ := he.attributes
      cases hnode.symm.trans hnode'
      cases hf'.symm.trans hid

/-- Looked up by its name, a child has the handle of its entry. -/
theorem reads_lookup (listed : Listed directory permissions rootPath m T h p l) (hm : m.Reachable)
    (calm : m.failures = {}) (he : e ∈ l) :
    Reads m T ((overTree directory permissions rootPath).lookup h e.name) e.handle := by
  obtain ⟨n, -, hdescribes, hname, -⟩ := listed.child hm he
  obtain ⟨node, id, hnode, -⟩ := hdescribes.attributes
  have valid := Name.ofText_eq_ok_iff.mp ⟨n, Name.ofText_text n⟩
  rw [hname]
  refine .run (.bind (listed.reads_resolve listed.registered) fun p' => .assuming fun hp => ?_)
  subst hp
  rw [if_neg valid.2.1, if_neg valid.2.2.1, Name.ofText_text]
  refine .bind (M := fun c b t => Unchanged m T b t ∧ c = n) (.check fun b t h => ?_) fun c =>
    .assuming fun hc => ?_
  · exact ⟨fun c hc => ⟨h, (Except.ok.inj hc).symm⟩, nofun⟩
  subst hc
  refine .bind (M := fun _ => Unchanged m T) ?_ fun _ => listed.reads_sightPath hdescribes.handle
  refine (Memory.session_triple (K := (· = T)) (Q := fun _ t => t = T) (F := fun _ _ => False)
    fun s => (Memory.stat_triple calm s _).consequence (fun _ _ h => h) ?_ ?_).weaken_fails
      fun _ _ _ h => h.2
  · rintro _ b t ⟨-, h⟩
    exact h
  · rintro f b t ⟨-, -, hnone, -⟩
    rw [hnode] at hnone
    cases hnone

/-- From an entry one goes up to the directory, by either request. -/
theorem reads_up (listed : Listed directory permissions rootPath m T h p l) (hm : m.Reachable)
    (he : e ∈ l) :
    Reads m T ((overTree directory permissions rootPath).parentOf e.handle) h ∧
      Reads m T ((overTree directory permissions rootPath).lookup e.handle "..") h := by
  obtain ⟨n, -, hdescribes, -, hne⟩ := listed.child hm he
  have up : Reads m T (resolve e.handle >>=
      (overTree directory permissions rootPath).parentHandle) h := by
    refine .bind (listed.reads_resolve hdescribes.handle) fun q => .assuming fun hq => ?_
    subst hq
    exact listed.reads_parentHandle hne
  exact ⟨up.run, up.run⟩

end Listed

end OverTree

/-- The requests that a listing suggests, with the answers that it leads to expect. -/
inductive Asks (h : Handle) (l : List DirectoryEntry) : Request → Answer → Prop
  | list : Asks h l (.list h) (.entries l)
  | lookup {e : DirectoryEntry} (he : e ∈ l) : Asks h l (.lookup h e.name) (.handle e.handle)
  | parentOf {e : DirectoryEntry} (he : e ∈ l) : Asks h l (.parentOf e.handle) (.handle h)
  | above {e : DirectoryEntry} (he : e ∈ l) : Asks h l (.lookup e.handle "..") (.handle h)

/-- What clients see of a gateway that has just listed the directory under a handle. -/
structure CoherentListing {σ : Type} (g : Gateway σ) (h : Handle) (l : List DirectoryEntry)
    (w : World σ) : Prop where
  names : (l.map DirectoryEntry.name).Nodup
  acceptable : ∀ e ∈ l, Name.IsAcceptable e.name
  handles : (l.map DirectoryEntry.handle).Nodup
  attributes : ∀ e ∈ l, e.attributes.inode = e.handle ∧ e.attributes.fileId = e.handle
  /-- An entry stands for the path that its name leads to from the directory. -/
  paths : ∀ e ∈ l, ∃ p q, pathFor w.inodes h = .ok p ∧ pathFor w.inodes e.handle = .ok q ∧
    Spelling.join p.toText e.name = .ok q.toText
  /-- However often they are asked and in whatever order, the requests that the listing suggests
  leave the table as it is and are answered as the listing leads to expect. -/
  queries : ∀ rs, (∀ r ∈ rs, ∃ a, Asks h l r a) → (g.afterAll w rs).inodes = w.inodes ∧
    ∀ r a, Asks h l r a → ((g.perform r).answer (g.afterAll w rs)).1 = .ok a

section OverTree

variable {directory : Identity.Directory} {permissions : PermissionModel} {rootPath : Path}
  {m : Memory} {T : Inodes} {h : Handle} {p : Path} {l : List DirectoryEntry} {w : World Memory}

/-- Where a request is read, it is answered and leaves the table and the tree as they are. -/
theorem Reads.performed {g : Gateway Memory} {r : Request} {a : Answer}
    (ha : Reads m T (g.perform r) a) (hw : Unchanged m T w.backend w.inodes) :
    ((g.perform r).answer w).1 = .ok a ∧
      Unchanged m T (g.after w r).backend (g.after w r).inodes := by
  rcases Act.Triple.outcome ha hw with ⟨x, hx, still, rfl⟩ | ⟨f, -, absurd⟩
  · exact ⟨hx, still⟩
  · exact absurd.elim

namespace Listed

variable (listed : Listed directory permissions rootPath m T h p l) (hm : m.Reachable)
include listed hm

/-- Every request that the listing suggests is read. -/
theorem reads_perform (calm : m.failures = {}) {r : Request} {a : Answer} (hr : Asks h l r a) :
    Reads m T ((overTree directory permissions rootPath).perform r) a := by
  cases hr with
  | list => exact (listed.reads_list hm calm).map Answer.entries
  | lookup he => exact (listed.reads_lookup hm calm he).map Answer.handle
  | parentOf he => exact (listed.reads_up hm he).1.map Answer.handle
  | above he => exact (listed.reads_up hm he).2.map Answer.handle

/-- Requests that the listing suggests, one after another, leave the table and the tree as they
are. -/
theorem unchanged_afterAll (calm : m.failures = {}) {rs : List Request}
    (hrs : ∀ r ∈ rs, ∃ a, Asks h l r a) (hw : Unchanged m T w.backend w.inodes) :
    Unchanged m T ((overTree directory permissions rootPath).afterAll w rs).backend
      ((overTree directory permissions rootPath).afterAll w rs).inodes := by
  induction rs generalizing w with
  | nil => exact hw
  | cons r rest ih =>
    obtain ⟨⟨a, hr⟩, hrest⟩ := List.forall_mem_cons.mp hrs
    exact ih hrest ((listed.reads_perform hm calm hr).performed hw).2

theorem coherentListing (calm : m.failures = {}) (hw : Unchanged m T w.backend w.inodes) :
    (overTree directory permissions rootPath).CoherentListing h l w := by
  have coherent := listed.dense.coherent
  have once := (hm.children p).1
  constructor
  · -- Children of one directory differ in their names.
    refine nodup_map_right listed.entries once fun q hq q' hq' e e' he he' heq => ?_
    obtain ⟨n, rfl⟩ := Path.exists_child_of_parent? ((hm.children p).2 q hq).1
    obtain ⟨n', rfl⟩ := Path.exists_child_of_parent? ((hm.children p).2 q' hq').1
    rw [he.name, he'.name, Path.lastName_child, Path.lastName_child] at heq
    rw [Name.ext_text heq]
  · intro e he
    obtain ⟨n, -, -, hname, -⟩ := listed.child hm he
    rw [hname]
    exact Name.ofText_eq_ok_iff.mp ⟨n, Name.ofText_text n⟩
  · refine nodup_map_right listed.entries once fun q _ q' _ e e' he he' heq => ?_
    have hmem := he'.handle
    rw [← heq] at hmem
    exact coherent.path_unique hmem he.handle
  · intro e he
    obtain ⟨n, -, hdescribes, -⟩ := listed.child hm he
    obtain ⟨node, id, -, -, hshown⟩ := hdescribes.attributes
    rw [hshown]
    exact ⟨rfl, rfl⟩
  · intro e he
    obtain ⟨n, -, hdescribes, hname, -⟩ := listed.child hm he
    rw [hw.2]
    refine ⟨p, p.child n, (pathFor_iff coherent).mpr listed.registered,
      (pathFor_iff coherent).mpr hdescribes.handle, ?_⟩
    rw [hname, Spelling.join, Name.ofText_text, Path.ofText_toText]
    rfl
  · intro rs hrs
    have still := listed.unchanged_afterAll hm calm hrs hw
    refine ⟨still.2.trans hw.2.symm, fun r a hr => ?_⟩
    exact ((listed.reads_perform hm calm hr).performed still).1

end Listed

variable {g : Gateway Memory} {root : String} {w' : World Memory}

/-- What is listed is registered. -/
theorem registered_of_list {σ : Type} {g : Gateway σ} {w : World σ} (ht : w.inodes.Coherent)
    {l : List DirectoryEntry} (listed : ((g.list h).answer w).1 = .ok l) :
    ∃ p, (h, p) ∈ w.inodes.entries := by
  cases hp : pathFor w.inodes h with
  | ok p => exact ⟨p, (pathFor_iff ht).mp hp⟩
  | error r =>
    simp [list, Gateway.run, resolve, Act.look, Call.answer_bind, hp, Except.mapError] at listed

/-- Where the gateway stays within its root and no failure is wanted, a listing that succeeds is
coherent. -/
theorem WithinRoot.coherentListing
    (hw : (overTree directory permissions rootPath).WithinRoot Memory.Reachable w.backend w.inodes)
    (calm : w.backend.failures = {})
    (told : ((overTree directory permissions rootPath).list h).answer w = (.ok l, w')) :
    (overTree directory permissions rootPath).CoherentListing h l w' := by
  obtain ⟨p, registered⟩ := registered_of_list hw.denseAt.dense.coherent (congrArg Prod.fst told)
  have triple : Act.Triple _ ((overTree directory permissions rootPath).list h) _ _ :=
    list_triple (p := p) (K := fun t => (h, p) ∈ t.entries) hw.behind calm
      fun t _ q _ hmem => (t.entries_prefix_sightPath q).subset hmem
  have ends := triple w ⟨Memory.Still.refl _, hw.denseAt.dense, registered, registered⟩
  rw [told] at ends
  obtain ⟨still, isDirectory, dense, entries, registered'⟩ := ends
  have listed : Listed directory permissions rootPath w.backend w'.inodes h p l :=
    ⟨dense, registered', hw.closed.within h p registered, isDirectory, entries⟩
  exact listed.coherentListing hw.behind calm ⟨still, rfl⟩

/-- A gateway over a tree in memory was opened and used in any way, while others changed the tree
and nobody wrote into its table past it.  Once no failure is wanted, every listing that succeeds is
coherent. -/
theorem OpenedAt.afterSteps_coherentListing (hg : g = overTree directory permissions rootPath)
    (opened : g.OpenedAt root w) (hw : Memory.Reachable w.backend) {steps : List (Step Memory)}
    (hsteps : ∀ step ∈ steps, step.Respects Memory.Reachable)
    (calm : (g.afterSteps w steps).backend.failures = {})
    (answered : (g.list h).answer (g.afterSteps w steps) = (.ok l, w')) :
    g.CoherentListing h l w' := by
  subst hg
  have contract := contract_withinRoot (g := overTree directory permissions rootPath)
    Memory.listsChildren (preserves_reachable directory permissions rootPath)
  have before := contract.afterSteps (opened.withinRoot hw) fun step (hstep : step ∈ steps) => by
    have respects := hsteps step hstep
    cases step with
    | request r => trivial
    | change f => exact fun b t ht => ⟨ht.denseAt, ht.closed, respects b ht.behind⟩
    | plant h text => exact respects.elim
  exact before.coherentListing calm answered

/-- What is done to a tree: a directory is made through the gateway, and another client places a
file beside it. -/
def filling : List (Step Memory) :=
  [.request (.create 1 "a" "directory" ⟨0, 0⟩ 493),
    .change fun m => ((Memory.seed "/b" .file 1 none).answer m).2]

/-- The file is seen first when the root is listed; then it is found by its name. -/
theorem overMemory_coherentListing : ∃ l w',
    (overMemory.list 1).answer (overMemory.afterSteps openTree filling) = (.ok l, w') ∧
    l.map (fun e => (e.name, e.handle)) = [("a", 2), ("b", 3)] ∧
    overMemory.CoherentListing 1 l w' ∧
    ((overMemory.perform (.lookup 1 "b")).answer w').1 = .ok (.handle 3) := by
  have start : Memory.Reachable newTree.backend := @Memory.Reachable.created _ _ _ [] _ rfl
  have opened : Memory.Reachable openTree.backend := (start.called .openSession).called (.release 0)
  have respects : ∀ step ∈ filling, step.Respects Memory.Reachable := by
    refine List.forall_mem_cons.mpr ⟨trivial, List.forall_mem_singleton.mpr ?_⟩
    exact fun m hm => hm.called (.seed "/b" .file 1 none)
  have calm : (overMemory.afterSteps openTree filling).backend.failures = {} := by decide +kernel
  have told : (((overMemory.list 1).answer (overMemory.afterSteps openTree filling)).1.toOption.map
      (List.map fun e => (e.name, e.handle))) = some [("a", 2), ("b", 3)] := by decide +kernel
  rcases answered : (overMemory.list 1).answer (overMemory.afterSteps openTree filling)
    with ⟨f | l, w'⟩ <;> rw [answered] at told
  · cases told
  · have names : l.map (fun e => (e.name, e.handle)) = [("a", 2), ("b", 3)] := Option.some.inj told
    have listed := overMemory_openedAt.afterSteps_coherentListing rfl opened respects calm answered
    have found : ("b", (3 : Handle)) ∈ l.map fun e => (e.name, e.handle) := by
      rw [names]
      exact List.mem_cons_of_mem _ List.mem_cons_self
    obtain ⟨e, he, heq⟩ := List.mem_map.mp found
    obtain ⟨hname, hhandle⟩ := Prod.mk.inj heq
    refine ⟨l, w', rfl, names, listed, ?_⟩
    refine (listed.queries [] (by simp)).2 _ _ ?_
    rw [← hname, ← hhandle]
    exact .lookup he

end OverTree

end Gateway

end InodeGateway
