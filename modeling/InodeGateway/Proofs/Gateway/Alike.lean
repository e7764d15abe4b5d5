import InodeGateway.Proofs.Gateway.Run
import InodeGateway.Proofs.Gateway.Telling
import InodeGateway.Proofs.Local.Keeping
import InodeGateway.Proofs.Memory.Keeping

/-!
# Gateways over different backends tell alike

A gateway over a new tree in memory and one over an empty directory of the disk are opened at their
roots and asked the same.  As long as the file system can read the names, they give the same answers
under the same handles.  There is one exception: of a name below a file the one says that it is not
found, and the other that the storage failed.

## Main definitions

* `Gateway.outcome` — what clients see of the answer to a request
* `Gateway.Asked` — the names in a run of requests fit where they are asked for
* `Namespace.AsksBelowFile` — a name is looked up below a file
* `Gateway.Alike` — two gateways tell alike, except of names below files

## Main statements

* `Backend.KeepsTree.establish_triple` — a gateway is opened where the root alone exists
* `Backend.KeepsTree.outcome_eq` — what clients see is what the namespace tells
* `Gateway.memory_disk_alike` — the two gateways tell alike
-/

namespace InodeGateway

namespace Namespace

variable {N : Namespace} {fits : Path → Prop} {r : Request}

/-- The root under its own handle, and nothing else. -/
def bare : Namespace := ⟨Kinds.bare, Inodes.mounted .root⟩

theorem whole_bare (hroot : fits .root) : bare.Whole fits where
  dense := Inodes.dense_mounted .root
  rooted := List.mem_singleton_self _
  registered p := by
    by_cases hp : p = .root <;> simp [bare, Kinds.bare, Inodes.entries_mounted, hp]
  closed := Kinds.bare_closed
  fits p h := by
    by_cases hp : p = .root
    · exact hp ▸ hroot
    · simp [bare, Kinds.bare, hp] at h

/-- The namespace after requests, one after another. -/
def afterAll (N : Namespace) (rs : List Request) : Namespace := rs.foldl after N

/-- The names in requests, made one after another, fit where they are asked for. -/
def Asked (fits : Path → Prop) : Namespace → List Request → Prop
  | _, [] => True
  | N, r :: rest => r.Fits fits N.table ∧ (N.after r).Asked fits rest

/-- The tree and the table of the namespace are those of a world. -/
structure ShownBy {σ : Type} (N : Namespace) (shows : Kinds → σ → Prop) (w : World σ) : Prop where
  kinds : shows N.kinds w.backend
  table : w.inodes = N.table

/-- A name is looked up below a file. -/
def AsksBelowFile (N : Namespace) : Request → Prop
  | .lookup parent name => ∃ p n, Gateway.pathFor N.table parent = .ok p ∧
      Name.ofText name = .ok n ∧ N.kinds p = some .file
  | _ => False

/-- Below a file no name is found. -/
theorem Whole.tell_below_file (whole : N.Whole fits) (h : N.AsksBelowFile r) (below : Code) :
    N.tell below r = .error below := by
  cases r with
  | lookup parent name =>
    obtain ⟨p, n, hp, hn, hfile⟩ := h
    obtain rfl := Name.text_of_ofText hn
    have free : N.kinds (p.child n) = none := by
      cases hchild : N.kinds (p.child n) with
      | none => rfl
      | some there => cases hfile.symm.trans (whole.closed p n (by simp [hchild]))
    obtain ⟨-, hdot, hdots⟩ := Disk.name_ne n
    rw [tell, hp]
    simp [bind, Except.bind, hdot, hdots, free, hfile, throw, throwThe, MonadExceptOf.throw]
  | _ => exact h.elim

/-- Elsewhere it does not matter for which reason names below files are not found. -/
theorem tell_elsewhere (h : ¬ N.AsksBelowFile r) (below below' : Code) :
    N.tell below r = N.tell below' r := by
  cases r with
  | lookup parent name =>
    rw [tell, tell]
    cases hp : Gateway.pathFor N.table parent with
    | error _ => rfl
    | ok p =>
      cases hn : Name.ofText name with
      | error _ => rfl
      | ok n =>
        have nofile : N.kinds p ≠ some .file := fun hfile => h ⟨p, n, hp, hn, hfile⟩
        simp only [coded_ok, bind, Except.bind]
        split
        · rfl
        · split
          · rfl
          · cases N.kinds (p.child n) with
            | some _ => rfl
            | none =>
              cases hkind : N.kinds p with
              | none => rfl
              | some kind =>
                cases kind with
                | file => exact absurd hkind nofile
                | directory => rfl
  | _ => rfl

end Namespace

namespace Gateway

variable {σ : Type}

/-- What clients see of the answer to a request: an answer, but for owners, modes, times and space,
or the class of the failure. -/
def outcome (g : Gateway σ) (w : World σ) (r : Request) : Except Code Told :=
  match ((g.perform r).answer w).1 with
  | .ok answer => .ok answer.told
  | .error f => .error f.codeOf

/-- The names in requests, made of a gateway one after another, fit where they are asked for. -/
def Asked (fits : Path → Prop) (g : Gateway σ) : World σ → List Request → Prop
  | _, [] => True
  | w, r :: rest => r.Fits fits w.inodes ∧ g.Asked fits (g.after w r) rest

end Gateway

namespace Backend.KeepsTree

variable {σ : Type} {b : Backend σ} {shows : Kinds → σ → Prop}
  {during : Session → Kinds → σ → Prop} {fits : Path → Prop} {owners : Owner → Prop}
  {below : Reason} {N : Namespace} {directory : Identity.Directory}
  {permissions : PermissionModel} {w : World σ} {r : Request}
  (keeps : b.KeepsTree shows during fits owners below)
include keeps

theorem rootReadable_triple (hroot : N.kinds .root = some .directory) (hfits : fits .root)
    (s : Session) :
    Act.Triple (fun x t => during s N.kinds x ∧ t = N.table)
      ((Gateway.overAll b directory permissions).rootReadable s)
      (fun readable x t => during s N.kinds x ∧ t = N.table ∧ readable = true)
      fun _ _ _ => False := by
  have looked : Act.Triple (fun x t => during s N.kinds x ∧ t = N.table) (do
      let _ ← Act.call (b.stat s Path.root.toText)
      Act.call (b.permits s .read Path.root.toText))
      (fun readable x t => during s N.kinds x ∧ t = N.table ∧ readable = true)
      fun _ _ _ => False := by
    refine .bind (keeps.stat_triple s hroot hfits) fun d => .call_ok ?_
    rintro x t ⟨⟨hx, ht⟩, -⟩
    exact ⟨true, x, keeps.readable hx, hx, ht, rfl⟩
  exact .explain (.orMissing looked (fun _ _ _ _ h => h.elim) fun _ _ _ _ h => h.elim)

/-- A gateway is opened where nothing but the root exists. -/
theorem establish_triple (hfits : fits .root) :
    Act.Triple (fun x t => shows Kinds.bare x ∧ t = {})
      (Gateway.establish b (directory : Identity.Registry σ) permissions Path.root.toText)
      (fun g x t => (shows Kinds.bare x ∧ t = Inodes.mounted .root) ∧
        g = Gateway.overAll b directory permissions)
      fun _ _ _ => False := by
  have hroot : Namespace.kinds ⟨Kinds.bare, {}⟩ .root = some .directory := rfl
  unfold Gateway.establish
  refine .check_bind (Path.ofText_toText .root) ?_
  have looked : Act.Triple (fun x t => shows Kinds.bare x ∧ t = {})
      (Act.withSession b (Gateway.overAll b directory permissions).rootReadable)
      (fun readable x t => shows Kinds.bare x ∧ t = {} ∧ readable = true)
      fun _ x _ => shows Kinds.bare x ∧ False :=
    keeps.session_triple fun s =>
      (keeps.rootReadable_triple hroot hfits s).weaken_fails fun _ _ _ h => h.elim
  refine .bind (.note _ _ _) fun _ => .bind (looked.weaken_fails fun _ _ _ h => h.2)
    fun readable => ?_
  have apart : ∀ x t, shows Kinds.bare x ∧ t = ({} : Inodes) ∧ readable = true →
      (shows Kinds.bare x ∧ t = {}) ∧ readable = true := fun _ _ => and_assoc.mpr
  refine Act.Triple.weaken_pre (.assuming fun hreadable => ?_) apart
  rw [if_pos hreadable]
  refine .bind (M := fun _ x t => shows Kinds.bare x ∧ t = Inodes.mounted .root) (.table_ok ?_)
    fun _ => .pure fun x t hx => ⟨hx, rfl⟩
  rintro x t ⟨hx, rfl⟩
  exact ⟨(), _, rfl, hx, rfl⟩

section Known

variable (known : ∀ owner, owners owner → owner.Known directory)
include known

/-- What clients see of the answer to a request is what the namespace tells, and the namespace
afterwards is the one that follows. -/
theorem outcome_eq (whole : N.Whole fits) (shown : N.ShownBy shows w)
    (hr : r.Fits fits w.inodes) :
    (Gateway.overAll b directory permissions).outcome w r = N.tell below.code r ∧
      (N.after r).ShownBy shows ((Gateway.overAll b directory permissions).after w r) := by
  rw [shown.table] at hr
  have performed : Act.Triple _ ((Gateway.overAll b directory permissions).perform r) _ _ :=
    keeps.perform_tells whole known hr
  have ends := performed w ⟨shown.kinds, shown.table⟩
  rw [Gateway.outcome, Gateway.after]
  rcases heq : ((Gateway.overAll b directory permissions).perform r).answer w with
    ⟨f | answer, w'⟩ <;> rw [heq] at ends <;> exact ⟨ends.2.symm, ends.1.1, ends.1.2⟩

/-- The same of requests, made one after another. -/
theorem shown_afterAll (whole : N.Whole fits) (shown : N.ShownBy shows w) {rs : List Request}
    (asked : N.Asked fits rs) :
    (N.afterAll rs).Whole fits ∧
      (N.afterAll rs).ShownBy shows ((Gateway.overAll b directory permissions).afterAll w rs) := by
  induction rs generalizing N w with
  | nil => exact ⟨whole, shown⟩
  | cons r rest ih =>
    obtain ⟨hr, hrest⟩ := asked
    have next : (N.after r).ShownBy shows
        ((Gateway.overAll b directory permissions).after w r) :=
      (keeps.outcome_eq known whole shown (shown.table ▸ hr)).2
    exact ih (whole.after hr) next hrest

/-- What a gateway is asked, the namespace is asked. -/
theorem asked (whole : N.Whole fits) (shown : N.ShownBy shows w) {rs : List Request}
    (asked : (Gateway.overAll b directory permissions).Asked fits w rs) :
    N.Asked fits rs := by
  induction rs generalizing N w with
  | nil => trivial
  | cons r rest ih =>
    obtain ⟨hr, hrest⟩ := asked
    have hr' : r.Fits fits N.table := shown.table ▸ hr
    exact ⟨hr', ih (whole.after hr') (keeps.outcome_eq known whole shown hr).2 hrest⟩

end Known

variable (directory permissions) in
/-- A gateway is opened over an empty table and a bare tree. -/
theorem opened (hfits : fits .root) (hshows : shows Kinds.bare w.backend) (hempty : w.inodes = {}) :
    ∃ w', (Gateway.establish b (directory : Identity.Registry σ) permissions "/").answer w =
      (.ok (Gateway.overAll b directory permissions), w') ∧ Namespace.bare.ShownBy shows w' := by
  have opens : Act.Triple _ (Gateway.establish b (directory : Identity.Registry σ) permissions "/")
      _ _ := keeps.establish_triple hfits
  rcases opens.outcome ⟨hshows, hempty⟩ with ⟨g, hg, ⟨hbare, htable⟩, rfl⟩ | ⟨f, -, absurd⟩
  · exact ⟨_, Prod.ext hg rfl, hbare, htable⟩
  · exact absurd.elim

end Backend.KeepsTree

namespace Gateway

/-- Names and handles in memory. -/
def namespaceOf (w : World Memory) : Namespace := ⟨w.backend.kindAt?, w.inodes⟩

/-- The gateway over a tree in memory and the one over a directory of the disk tell alike, except of
names below files. -/
structure Alike (fits : Path → Prop) (g : Gateway Memory) (g' : Gateway Local) (w : World Memory)
    (w' : World Local) : Prop where
  table : w.inodes = w'.inodes
  resolve : ∀ h, ((Gateway.resolve h).answer w).1 = ((Gateway.resolve h).answer w').1
  outcome : ∀ r, r.Fits fits w.inodes → ¬ (namespaceOf w).AsksBelowFile r →
    g.outcome w r = g'.outcome w' r
  below : ∀ r, r.Fits fits w.inodes → (namespaceOf w).AsksBelowFile r →
    g.outcome w r = .error .notFound ∧ g'.outcome w' r = .error .ioFailure

section Alike

variable {base : Path} {owner : Owner} {directory directory' : Identity.Directory}
  {permissions permissions' : PermissionModel} {N : Namespace} {w : World Memory} {w' : World Local}

theorem alike_of_shown (hbase : base ≠ .root) (hreads : Local.Fits base .root)
    {owners : Owner → Prop} (known : ∀ maker, maker = owner → maker.Known directory)
    (known' : ∀ owner, owners owner → owner.Known directory') (whole : N.Whole (Local.Fits base))
    (shown : N.ShownBy (Memory.Shows owner) w) (shown' : N.ShownBy (Local.Shows base owners) w') :
    Alike (Local.Fits base) (overAll Memory.backend directory permissions)
      (overAll Local.backend directory' permissions') w w' := by
  have table : w.inodes = w'.inodes := shown.table.trans shown'.table.symm
  have same : namespaceOf w = N := by
    rw [namespaceOf, shown.kinds.kinds, shown.table]
  have told : ∀ r, r.Fits (Local.Fits base) w.inodes →
      (overAll Memory.backend directory permissions).outcome w r = N.tell .notFound r ∧
        (overAll Local.backend directory' permissions').outcome w' r = N.tell .ioFailure r :=
    fun r hr => ⟨((Memory.keepsTree owner _).outcome_eq known whole shown hr).1,
      ((Local.keepsTree hbase hreads owners).outcome_eq known' whole shown' (table ▸ hr)).1⟩
  refine ⟨table, fun h => ?_, fun r hr elsewhere => ?_, fun r hr below => ?_⟩
  · simp only [Gateway.resolve, Act.look, Act.answer_table, table]
  · rw [(told r hr).1, (told r hr).2]
    exact Namespace.tell_elsewhere (same ▸ elsewhere) _ _
  · rw [(told r hr).1, (told r hr).2]
    exact ⟨whole.tell_below_file (same ▸ below) _, whole.tell_below_file (same ▸ below) _⟩

/-- A gateway over a new tree in memory and one over an empty directory of the disk, both opened at
their roots, tell alike after the same requests, however many, as long as the file system can read
the names.  Only of a name below a file the first says that it is not found, and the second that the
storage failed. -/
theorem memory_disk_alike (permissions permissions' : PermissionModel) {capacityBytes : Num}
    {now : Instant} {start : World Memory} {start' : World Local}
    (hstart : start.backend = Memory.empty owner capacityBytes now) (hempty : start.inodes = {})
    (known : owner.Known directory) (vacant : start'.backend.Vacant base)
    (hempty' : start'.inodes = {})
    (known' : ∀ holder, start'.backend.Holder base holder → holder.Known directory') :
    ∃ w w', (establish Memory.backend (directory : Identity.Registry Memory) permissions "/").answer
        start = (.ok (overAll Memory.backend directory permissions), w) ∧
      (establish Local.backend (directory' : Identity.Registry Local) permissions' "/").answer
        start' = (.ok (overAll Local.backend directory' permissions'), w') ∧
      ∀ rs, (overAll Memory.backend directory permissions).Asked (Local.Fits base) w rs →
        Alike (Local.Fits base) (overAll Memory.backend directory permissions)
          (overAll Local.backend directory' permissions')
          ((overAll Memory.backend directory permissions).afterAll w rs)
          ((overAll Local.backend directory' permissions').afterAll w' rs) := by
  have keeps := Memory.keepsTree owner (Local.Fits base)
  have keeps' := Local.keepsTree vacant.inside vacant.reads (start'.backend.Holder base)
  have known : ∀ maker, maker = owner → maker.Known directory := by
    rintro _ rfl
    exact known
  obtain ⟨w, hopen, shown⟩ := keeps.opened directory permissions vacant.reads
    (hstart ▸ Memory.Shows.empty owner capacityBytes now) hempty
  obtain ⟨w', hopen', shown'⟩ := keeps'.opened directory' permissions' vacant.reads vacant.shows
    hempty'
  refine ⟨w, w', hopen, hopen', fun rs asked => ?_⟩
  have whole := Namespace.whole_bare vacant.reads
  have asked' := keeps.asked known whole shown asked
  obtain ⟨whole', after⟩ := keeps.shown_afterAll known whole shown asked'
  exact alike_of_shown vacant.inside vacant.reads known known' whole' after
    (keeps'.shown_afterAll known' whole shown' asked').2

end Alike

section OverDisk

/-- A gateway over a directory of the disk, in which the names of owners are their user ids. -/
def overDisk : Gateway Local := overAll Local.backend Identity.passthrough .fixed

def served : Path := ⟨[⟨"srv", by decide⟩]⟩

/-- A directory of a user. -/
def directoryOf (user : Nat) : Disk.Entry :=
  ⟨.directory, Disk.directoryMode, user, .at 0, .at 0, .at 0⟩

/-- A disk with one directory, which is served and empty. -/
def emptyDisk : World Local where
  backend := {
    root := served.place
    zone := "grid"
    disk := {
      entries := ⟨[([], directoryOf 7), (served.place, directoryOf 7)]⟩
      userId := 7
      now := .at 0
      space := ⟨1024, 512⟩ } }

theorem emptyDisk_vacant : emptyDisk.backend.Vacant served where
  root := rfl
  inside := by decide
  reads := ⟨by decide +kernel, by decide +kernel, by decide +kernel⟩
  way := by
    intro q hq
    obtain ⟨more, hmore⟩ := Path.contains_iff.mp hq
    obtain ⟨_ | ⟨n, rest⟩⟩ := q
    · exact ⟨_, rfl, rfl, by decide⟩
    · obtain ⟨rfl, hrest⟩ := List.cons.inj hmore
      obtain ⟨rfl, -⟩ := List.append_eq_nil_iff.mp hrest
      exact ⟨_, rfl, rfl, by decide⟩
  usable := ⟨_, rfl, rfl, fun _ right => Disk.Entry.allows_own rfl right⟩
  empty := by
    intro place hplace
    simp [emptyDisk, Disk.entry?, OrderedMap.get?, OrderedMap.find, hplace]

theorem known_passthrough : Owner.Known Identity.passthrough ⟨"7", "grid"⟩ :=
  ⟨"7", 7, rfl, by decide +kernel⟩

/-- Everything on the disk belongs to one user. -/
theorem known_of_holder {holder : Owner} (h : emptyDisk.backend.Holder served holder) :
    holder.Known Identity.passthrough := by
  cases h with
  | maker => exact known_passthrough
  | directory he =>
    obtain rfl := Option.some.inj he
    exact known_passthrough

/-- A new file, which gets the handle 2. -/
def making : Request := .create 1 "log" "file" ⟨7, 7⟩ 420

theorem making_fits : making.Fits (Local.Fits served) (Inodes.mounted .root) := by
  intro p n hp hn
  cases hp
  cases hn
  exact ⟨by decide +kernel, by decide +kernel, by decide +kernel⟩

/-- On the disk as in memory, the new file is an empty one. -/
theorem made_alike : ∃ w',
    (establish Local.backend Identity.passthrough.registry .fixed "/").answer emptyDisk =
      (.ok overDisk, w') ∧
    overDisk.outcome (overDisk.afterAll w' [making]) (.getAttributes 2) =
      .ok (.object .file 0) := by
  obtain ⟨w, w', hopen, hopen', alike⟩ := memory_disk_alike .fixed .fixed
    (rfl : newTree.backend = Memory.empty ⟨"7", "grid"⟩ 1024 (.at 0)) rfl known_passthrough
    emptyDisk_vacant rfl fun _ => known_of_holder
  obtain rfl : openTree = w := congrArg Prod.snd hopen
  have after := alike [making] ⟨making_fits, trivial⟩
  exact ⟨w', hopen', (after.outcome (.getAttributes 2) trivial id).symm⟩

/-- Below it, a name is not found in memory, and the disk fails to look for it. -/
theorem below_made_unlike : ∃ w',
    (establish Local.backend Identity.passthrough.registry .fixed "/").answer emptyDisk =
      (.ok overDisk, w') ∧
    overMemory.outcome (overMemory.afterAll openTree [making]) (.lookup 2 "x") = .error .notFound ∧
    overDisk.outcome (overDisk.afterAll w' [making]) (.lookup 2 "x") = .error .ioFailure := by
  have vacant := emptyDisk_vacant
  have keeps := Local.keepsTree vacant.inside vacant.reads (emptyDisk.backend.Holder served)
  have known : ∀ holder, emptyDisk.backend.Holder served holder → holder.Known _ :=
    fun _ => known_of_holder
  obtain ⟨w', hopen, shown⟩ :=
    keeps.opened Identity.passthrough .fixed vacant.reads vacant.shows rfl
  have asked : Namespace.bare.Asked (Local.Fits served) [making] := ⟨making_fits, trivial⟩
  obtain ⟨whole, shown⟩ := keeps.shown_afterAll known
    (Namespace.whole_bare vacant.reads) shown asked
  refine ⟨w', hopen, rfl, (keeps.outcome_eq known whole shown ?_).1⟩
  rw [shown.table]
  intro p n hp hn
  cases hp
  cases hn
  exact ⟨by decide +kernel, by decide +kernel, by decide +kernel⟩

end OverDisk

end Gateway

end InodeGateway
