import InodeGateway.Gateway.Request
import InodeGateway.Proofs.Attributes
import InodeGateway.Proofs.Gateway.Contract
import InodeGateway.Proofs.Gateway.Namespace
import InodeGateway.Proofs.Path.Ancestry

/-!
# A gateway tells what its namespace says

Over a backend that keeps a tree, every operation answers what the namespace says, with an error
wherever the namespace says one, and leaves the namespace that follows.  Each operation is taken
apart along the steps in which it is done.

## Main definitions

* `Namespace.Ends` — how an action ends that starts where a namespace holds
* `Namespace.Tells` — the same of a part of an operation, whose failure is still to be restated
* `Owner.Known` — the owner has a user id
* `Gateway.overAll` — a gateway over all that a backend keeps

## Main statements

* `Backend.KeepsTree.perform_tells` — the answer to a request is what the namespace tells
-/

namespace InodeGateway

namespace Namespace

variable {σ α β γ : Type} {V : Kinds → σ → Prop} {N N' : Namespace} {code : Failure → Code}
  {told : Except Code β} {view : α → β} {fits : Path → Prop} {handle : Handle}

/-- From where the tree and the table are those of `N`, the action ends as told: with an answer that
leaves `N'`, or with a failure that leaves `N`. -/
def Ends (code : Failure → Code) (V : Kinds → σ → Prop) (N N' : Namespace) (told : Except Code β)
    (view : α → β) (a : Act σ α) : Prop :=
  Act.Triple (fun x t => V N.kinds x ∧ t = N.table) a
    (fun y x t => V N'.kinds x ∧ t = N'.table ∧ told = .ok (view y))
    fun f x t => V N.kinds x ∧ t = N.table ∧ told = .error (code f)

/-- A part of an operation ends as told, once its failure is restated. -/
abbrev Tells (V : Kinds → σ → Prop) (N N' : Namespace) (told : Except Code β) (view : α → β)
    (a : Act σ α) : Prop :=
  Ends (fun f => (Gateway.restate f).codeOf) V N N' told view a

theorem codeOf_restate_of_hasReason {f : Failure} {reason : Reason} (h : f.HasReason reason) :
    (Gateway.restate f).codeOf = reason.code := by
  obtain ⟨message, path, h⟩ := h
  simp [Gateway.restate, h, Failure.because, Failure.codeOf, Failure.code?]

namespace Tells

theorem pure {y : α} (h : told = .ok (view y)) :
    Tells V N N told view (Pure.pure y : Act σ α) := by
  refine Act.Triple.pure ?_
  rintro x t ⟨hV, ht⟩
  exact ⟨hV, ht, h⟩

theorem check {r : Except Refusal γ} {k : γ → Act σ α} {next : γ → Except Code β}
    (h : ∀ y, r = .ok y → Tells V N N' (next y) view (k y)) :
    Tells V N N' (coded r >>= next) view (Act.check r >>= k) := by
  intro w hw
  rw [Call.answer_bind]
  cases r with
  | error e => exact ⟨hw.1, hw.2, rfl⟩
  | ok y => exact h y rfl w hw

theorem look {f : Inodes → Except Refusal γ} {k : γ → Act σ α} {next : γ → Except Code β}
    (h : ∀ y, f N.table = .ok y → Tells V N N' (next y) view (k y)) :
    Tells V N N' (coded (f N.table) >>= next) view (Act.look f >>= k) := by
  rintro w ⟨hV, ht⟩
  rw [Call.answer_bind, Act.look, Act.answer_table]
  simp only [ht]
  cases hf : f N.table with
  | error e => exact ⟨hV, rfl, rfl⟩
  | ok y => exact h y hf _ ⟨hV, rfl⟩

theorem resolve {k : Path → Act σ α} {next : Path → Except Code β}
    (h : ∀ p, Gateway.pathFor N.table handle = .ok p → Tells V N N' (next p) view (k p)) :
    Tells V N N' (coded (Gateway.pathFor N.table handle) >>= next) view
      (Gateway.resolve handle >>= k) :=
  look h

theorem note {level : Journal.Level} {message : String} {fields : Journal.Fields}
    {k : Unit → Act σ α} (h : Tells V N N' told view (k ())) :
    Tells V N N' told view (Act.note level message fields >>= k) :=
  .bind (.note level message fields) fun _ => h

/-- A first part may change the tree or the table; what follows it may fail only as told if it does
not. -/
theorem bind {δ : Type} {a : Act σ γ} {k : γ → Act σ α} {first : Except Code δ} {seen : γ → δ}
    {next : δ → Except Code β} {N₁ : Namespace} (ha : Tells V N N₁ first seen a)
    (hk : ∀ y, first = .ok (seen y) → Act.Triple (fun x t => V N₁.kinds x ∧ t = N₁.table) (k y)
      (fun z x t => V N'.kinds x ∧ t = N'.table ∧ next (seen y) = .ok (view z))
      fun f x t => V N.kinds x ∧ t = N.table ∧ next (seen y) = .error (Gateway.restate f).codeOf) :
    Tells V N N' (first >>= next) view (a >>= k) := by
  refine Act.Triple.bind (ha.weaken_fails ?_) fun y => ?_
  · rintro f x t ⟨hx, ht, hfirst⟩
    rw [hfirst]
    exact ⟨hx, ht, rfl⟩
  · rintro w ⟨hx, ht, hfirst⟩
    rw [hfirst]
    exact hk y hfirst w ⟨hx, ht⟩

/-- Nothing follows a first part that fails. -/
theorem stops {δ : Type} {a : Act σ γ} {k : γ → Act σ α} {c : Code} {seen : γ → δ}
    {N₁ : Namespace} (ha : Tells V N N₁ (.error c) seen a) :
    Tells V N N' (.error c) view (a >>= k) := by
  refine Act.Triple.bind (M := fun _ _ _ => False) (ha.consequence (fun _ _ h => h) ?_ ?_)
    fun _ _ h => h.elim
  · rintro _ x t ⟨-, -, h⟩
    cases h
  · rintro f x t ⟨hx, ht, h⟩
    cases h
    exact ⟨hx, ht, rfl⟩

/-- A call of the backend that fails for a reason. -/
theorem fails {c : Call σ α} {reason : Reason} (htold : told = .error reason.code)
    (h : ∀ x, V N.kinds x → ∃ f, c.answer x = (.error f, x) ∧ f.HasReason reason) :
    Tells V N N' told view (Act.call c) := by
  refine .call_error ?_
  rintro x t ⟨hx, ht⟩
  obtain ⟨f, heq, hf⟩ := h x hx
  refine ⟨f, x, heq, hx, ht, ?_⟩
  rw [htold, ← codeOf_restate_of_hasReason hf]

/-- What is registered is sighted without a change. -/
theorem sightPath {p : Path} (whole : N.Whole fits) (hp : N.kinds p ≠ none) :
    Tells V N N (.handle <$> coded (N.table.sightPath p).1) Told.handle
      (Gateway.sightPath p : Act σ Handle) := by
  obtain ⟨h, -, found⟩ := whole.sightPath_known hp
  refine .explain (.table_ok ?_)
  rintro x t ⟨hV, rfl⟩
  exact ⟨h, N.table, found, hV, rfl, by rw [found]; rfl⟩

theorem run {operation : Operation} {context : Journal.Fields} {body : Act σ α}
    (h : Tells V N N' told view body) :
    Ends Failure.codeOf V N N' told view (Gateway.run operation context body) := by
  intro w hw
  have ends := h w hw
  rw [Gateway.run, Call.answer_of]
  rcases heq : body.answer w with ⟨f | y, after⟩ <;> rw [heq] at ends <;> exact ends

end Tells

end Namespace

/-- The directory of identities has a user id for the owner. -/
def Owner.Known (directory : Identity.Directory) (owner : Owner) : Prop :=
  ∃ text id, directory.resolve (Identity.owner owner.name owner.zone) = .ok (some text) ∧
    Identity.userId (Identity.owner owner.name owner.zone) text = .ok id

theorem Owner.Known.userIdOf {directory : Identity.Directory} {d : Metadata}
    (known : Owner.Known directory ⟨d.ownerName, d.ownerZone⟩) :
    ∃ id, Attributes.userIdOf directory d = .ok id := by
  obtain ⟨text, id, hresolve, hid⟩ := known
  exact ⟨id, Attributes.userIdOf_of_resolve hresolve hid⟩

/-- A gateway over all that a backend keeps. -/
def Gateway.overAll {σ : Type} (b : Backend σ) (directory : Identity.Directory)
    (permissions : PermissionModel) : Gateway σ :=
  ⟨b, directory, permissions, .root⟩

namespace Backend.KeepsTree

open Namespace (Ends Tells coded)

variable {σ α β : Type} {b : Backend σ} {shows : Kinds → σ → Prop}
  {during : Session → Kinds → σ → Prop} {fits : Path → Prop} {owners : Owner → Prop}
  {below : Reason} {N N' : Namespace} {told : Except Code β} {view : α → β} {V : Kinds → σ → Prop}
  {directory : Identity.Directory} {permissions : PermissionModel} {h : Handle} {p : Path}
  {kind : Kind}

section Parts

/-- Attributes are those of the description, for the owner is known. -/
theorem attributes_triple {pre : Assertion σ} {fails : Failure → Assertion σ}
    {d : Metadata} (known : Owner.Known directory ⟨d.ownerName, d.ownerZone⟩) :
    Act.Triple pre (Attributes.ofMetadata (directory : Identity.Registry σ) permissions h d)
      (fun a x t => pre x t ∧ a.kind = d.kind ∧ a.size = d.sizeBytes) fails := by
  refine (Attributes.ofMetadata_triple directory permissions h d).consequence
    (fun _ _ h => h) ?_ ?_
  · rintro a x t ⟨⟨-, shown⟩, hx⟩
    rw [shown]
    exact ⟨hx, rfl, rfl⟩
  · rintro f x t ⟨hf, -⟩
    obtain ⟨id, hid⟩ := known.userIdOf
    rw [hid] at hf
    cases hf

/-- What is registered is sighted under its handle, by its written path too. -/
theorem sight_known_triple {fails : Failure → Assertion σ} {K : σ → Prop}
    (hsight : N.table.sightPath p = (.ok h, N.table)) :
    Act.Triple (fun x t => K x ∧ t = N.table) (Gateway.sight p.toText : Act σ Handle)
      (fun y x t => (K x ∧ t = N.table) ∧ y = h) fails := by
  refine .explain (.table_ok ?_)
  rintro x t ⟨hx, rfl⟩
  refine ⟨h, N.table, ?_, ⟨hx, rfl⟩, rfl⟩
  rw [Inodes.sight, Path.ofText_toText]
  exact hsight

/-- The directory above a registered path is registered. -/
theorem parentHandle_tells (whole : N.Whole fits) (hp : N.kinds p ≠ none) :
    Tells V N N (N.above p) Told.handle
      ((Gateway.overAll b directory permissions).parentHandle p) := by
  unfold Gateway.parentHandle Namespace.above
  cases hparent : p.parent? with
  | none => simpa using .pure rfl
  | some q =>
    obtain ⟨n, rfl⟩ := Path.exists_child_of_parent? hparent
    have below : q.child n ≠ .root := by simp [Path.child, Path.root]
    have within : Path.root.contains q := by simp [Path.contains, Path.root]
    have above : N.kinds q ≠ none := by simp [whole.closed q n hp]
    simpa only [Gateway.overAll, if_neg below, within, if_true] using .sightPath whole above

variable (keeps : b.KeepsTree shows during fits owners below)
include keeps

/-- What is told within a session is told. -/
theorem session_tells {body : Session → Act σ α}
    (h : ∀ s, Tells (during s) N N' told view (body s)) :
    Tells shows N N' told view (Act.withSession b body) :=
  keeps.session_triple h

theorem stat_triple {fails : Failure → Assertion σ} (s : Session) (hkind : N.kinds p = some kind)
    (hp : fits p) :
    Act.Triple (fun x t => during s N.kinds x ∧ t = N.table) (Act.call (b.stat s p.toText))
      (fun d x t => (during s N.kinds x ∧ t = N.table) ∧ d.kind = kind ∧ d.sizeBytes = 0 ∧
        owners ⟨d.ownerName, d.ownerZone⟩) fails := by
  refine .call_ok ?_
  rintro x t ⟨hx, ht⟩
  obtain ⟨d, heq, hd⟩ := keeps.stat hx hkind hp
  exact ⟨d, x, heq, ⟨hx, ht⟩, hd⟩

/-- A description that may be missing is there. -/
theorem statOptional_triple {fails : Failure → Assertion σ} (s : Session)
    (hkind : N.kinds p = some kind) (hp : fits p) :
    Act.Triple (fun x t => during s N.kinds x ∧ t = N.table)
      ((Gateway.overAll b directory permissions).statOptional s p.toText)
      (fun found x t => ∃ d, (during s N.kinds x ∧ t = N.table) ∧ found = some d ∧ d.kind = kind ∧
        owners ⟨d.ownerName, d.ownerZone⟩) fails := by
  have there : Act.Triple _ (Act.call (b.stat s p.toText)) _ fun _ _ _ => False :=
    keeps.stat_triple s hkind hp
  refine .orMissing (.map (there.strengthen_post ?_)) (fun _ _ _ _ h => h.elim)
    fun _ _ _ _ h => h.elim
  rintro d x t ⟨hx, hd, -, howner⟩
  exact ⟨d, hx, rfl, hd, howner⟩

theorem listed_triple {fails : Failure → Assertion σ} (s : Session)
    (hkind : N.kinds p = some .directory) (hp : fits p) :
    Act.Triple (fun x t => during s N.kinds x ∧ t = N.table) (Act.call (b.list s p.toText))
      (fun texts x t => (during s N.kinds x ∧ t = N.table) ∧
        ∀ text, text ∈ texts ↔ ∃ n, N.kinds (p.child n) ≠ none ∧ text = (p.child n).toText)
      fails := by
  refine .call_ok ?_
  rintro x t ⟨hx, ht⟩
  obtain ⟨texts, heq, htexts⟩ := keeps.list hx hkind hp
  exact ⟨texts, x, heq, ⟨hx, ht⟩, htexts⟩

end Parts

section Operations

variable (keeps : b.KeepsTree shows during fits owners below) (whole : N.Whole fits)
include keeps whole

/-- The backend makes an object unless the namespace speaks against it. -/
theorem made_tells {n : Name} (hp : N.kinds p ≠ none) (hn : fits (p.child n)) (kind : Kind) :
    Tells shows N ⟨N.kinds.put (p.child n) kind, N.table⟩ (N.admits p n) id
      (Act.withSession b fun s => Act.call (b.create s (p.child n).toText kind)) := by
  refine keeps.session_triple fun s => ?_
  cases hkind : N.kinds p with
  | none => exact absurd hkind hp
  | some above =>
    cases hchild : N.kinds (p.child n) with
    | some there =>
      have hdirectory := whole.closed p n (by simp [hchild])
      exact Tells.fails (by simp [Namespace.admits, hdirectory, hchild, Reason.code])
        fun x hx => keeps.occupied hx hdirectory hchild hn
    | none =>
      cases above with
      | file =>
        exact Tells.fails (by simp [Namespace.admits, hkind, Reason.code])
          fun x hx => keeps.parentless hx hkind hchild hn
      | directory =>
        refine .call_ok ?_
        rintro x t ⟨hx, ht⟩
        have made : ∃ y, (b.create s (p.child n).toText kind).answer x = (.ok (), y) ∧
            during s (N.kinds.put (p.child n) kind) y := keeps.create hx hkind hchild hn
        obtain ⟨y, heq, hy⟩ := made
        exact ⟨(), y, heq, hy, ht, by simp [Namespace.admits, hkind, hchild]⟩

theorem create_tells (parent : Handle) (name word : String) (who : Principal) (mode : Num)
    (hr : (Request.create parent name word who mode).Fits fits N.table) :
    Ends Failure.codeOf shows N (N.after (.create parent name word who mode))
      (N.tell below.code (.create parent name word who mode)) Told.handle
      ((Gateway.overAll b directory permissions).create parent name word who mode) := by
  rw [Gateway.create, Namespace.tell]
  simp only [Namespace.slot, bind_assoc, pure_bind]
  refine Tells.run (Tells.check fun wanted hwanted => Tells.look fun p hp => Tells.note ?_)
  obtain ⟨hpos, hname, -⟩ := Creation.check_ok hwanted
  have hpath : Gateway.pathFor N.table parent = .ok p :=
    Gateway.pathFor_eq_ok_iff.mpr ⟨hpos, Inodes.pathOf_eq_ok_iff.mp hp⟩
  obtain ⟨above, habove⟩ := whole.kinds_of_pathFor hpath
  have made := keeps.made_tells whole (by simp [habove]) (hr p wanted.name hpath hname) wanted.kind
  refine made.bind fun _ hadmits => ?_
  have after : N.after (.create parent name word who mode) =
      ⟨N.kinds.put (p.child wanted.name) wanted.kind,
        (N.table.sightPath (p.child wanted.name)).2⟩ := by
    simp [Namespace.after, Namespace.slot, hwanted, hp, hadmits, bind, Except.bind, pure,
      Except.pure]
  obtain ⟨h, hh⟩ := whole.dense.sightPath_ok (p.child wanted.name)
  rw [hh, after]
  -- The path is new, so that the table grows; the table is dense, so that nothing is in the way.
  refine .bind (M := fun y x t => shows (N.kinds.put (p.child wanted.name) wanted.kind) x ∧
    t = (N.table.sightPath (p.child wanted.name)).2 ∧ y = h) (.explain (.table_ok ?_)) fun y =>
      .bind (.note _ _ _) fun _ => .bind (.note _ _ _) fun _ => .pure ?_
  · rintro x t ⟨hx, rfl⟩
    exact ⟨h, _, Prod.ext hh rfl, hx, rfl, rfl⟩
  · rintro x t ⟨hx, ht, rfl⟩
    exact ⟨hx, ht, rfl⟩

theorem lookup_tells (parent : Handle) (name : String)
    (hr : (Request.lookup parent name).Fits fits N.table) :
    Ends Failure.codeOf shows N N (N.tell below.code (.lookup parent name)) Told.handle
      ((Gateway.overAll b directory permissions).lookup parent name) := by
  rw [Gateway.lookup, Namespace.tell]
  refine Tells.run (Tells.resolve fun p hp => ?_)
  obtain ⟨kind, hkind⟩ := whole.kinds_of_pathFor hp
  split
  · exact .pure rfl
  · split
    · exact parentHandle_tells whole (by simp [hkind])
    · refine Tells.check fun n hn => ?_
      have hn := hr p n hp hn
      cases hchild : N.kinds (p.child n) with
      | some there =>
        have found : Tells shows N N (.ok ()) (fun _ => ())
            (Act.withSession b fun s => Act.call (b.stat s (p.child n).toText)) :=
          keeps.session_tells fun s => (keeps.stat_triple s hchild hn).strengthen_post ?_
        · show Tells shows N N (Except.ok () >>= fun _ =>
            Told.handle <$> coded (N.table.sightPath (p.child n)).1) Told.handle _
          exact found.bind fun _ _ => Tells.sightPath whole (by simp [hchild])
        · rintro d x t ⟨⟨hx, ht⟩, -⟩
          exact ⟨hx, ht, rfl⟩
      | none =>
        rw [hkind]
        have missing : Tells shows N N (.error (if kind = .file then below else .notFound).code)
            (fun _ => ()) (Act.withSession b fun s => Act.call (b.stat s (p.child n).toText)) :=
          keeps.session_tells fun s => Tells.fails rfl fun x hx => keeps.missing hx hkind hchild hn
        cases kind <;> exact missing.stops

omit keeps in
theorem parentOf_tells (h : Handle) :
    Ends Failure.codeOf shows N N (N.tell below.code (.parentOf h)) Told.handle
      ((Gateway.overAll b directory permissions).parentOf h) := by
  rw [Gateway.parentOf, Namespace.tell]
  refine Tells.run (Tells.resolve fun p hp => ?_)
  obtain ⟨kind, hkind⟩ := whole.kinds_of_pathFor hp
  exact parentHandle_tells whole (by simp [hkind])

omit keeps whole in
theorem commit_tells (h : Handle) :
    Ends Failure.codeOf shows N N (N.tell below.code (.commit h)) (fun _ => .done)
      ((Gateway.overAll b directory permissions).commit h) := by
  rw [Gateway.commit, Namespace.tell]
  exact Tells.run (Tells.resolve fun p hp => .pure rfl)

omit keeps whole in
theorem resolveAll_tells (handles : List Handle) :
    Tells shows N N (N.known handles) id (Gateway.resolveAll handles) := by
  induction handles with
  | nil => exact Tells.pure rfl
  | cons h rest ih => exact Tells.resolve fun p hp => ih

omit keeps whole in
/-- What is not offered is refused, at the first handle that stands for nothing or in the end. -/
theorem decline_tells (what : Unoffered) :
    Ends Failure.codeOf shows N N (N.tell below.code (.unoffered what)) (fun _ => .done)
      ((Gateway.overAll b directory permissions).decline what.operation what.handles) := by
  rw [Gateway.decline, Namespace.tell]
  refine Tells.run ((resolveAll_tells what.handles).bind fun _ _ => .fail ?_)
  rintro x t ⟨hx, ht⟩
  exact ⟨hx, ht, rfl⟩

section Described

variable (known : ∀ owner, owners owner → owner.Known directory)
include known

theorem getAttributes_tells (h : Handle) :
    Ends Failure.codeOf shows N N (N.tell below.code (.getAttributes h))
      (fun a => .object a.kind a.size)
      ((Gateway.overAll b directory permissions).getAttributes h) := by
  rw [Gateway.getAttributes, Namespace.tell]
  refine Tells.run (Tells.resolve fun p hp => ?_)
  obtain ⟨kind, hkind⟩ := whole.kinds_of_pathFor hp
  rw [hkind]
  have fit := whole.fits p (by simp [hkind])
  refine keeps.session_tells fun s => Act.Triple.bind (keeps.stat_triple s hkind fit) fun d =>
    .assuming fun described => ?_
  obtain ⟨hd, hsize, howner⟩ := described
  refine (attributes_triple (known _ howner)).strengthen_post ?_
  rintro a x t ⟨⟨hx, ht⟩, hkind', hsize'⟩
  have same : Told.object a.kind a.size = .object kind 0 := by rw [hkind', hsize', hd, hsize]
  exact ⟨hx, ht, congrArg Except.ok same.symm⟩

/-- Every child that the backend told of gets its entry. -/
theorem entries_triple {fails : Failure → Assertion σ} (s : Session) {texts : List String}
    (stand : ∀ text ∈ texts, ∃ n, N.kinds (p.child n) ≠ none ∧ text = (p.child n).toText) :
    Act.Triple (fun x t => during s N.kinds x ∧ t = N.table)
      ((Gateway.overAll b directory permissions).entries s texts)
      (fun l x t => (during s N.kinds x ∧ t = N.table) ∧
        N.rows p texts = {e | e ∈ l.map DirectoryEntry.named}) fails := by
  induction texts with
  | nil =>
    refine .pure ?_
    rintro x t hx
    exact ⟨hx, by simpa using Namespace.rows_nil⟩
  | cons text rest ih =>
    obtain ⟨n, hn, rfl⟩ := stand text List.mem_cons_self
    obtain ⟨kind, hkind⟩ := Option.ne_none_iff_exists'.mp hn
    obtain ⟨h, hmem, hsight⟩ := whole.sightPath_known hn
    rw [Gateway.entries]
    refine .bind (keeps.statOptional_triple s hkind (whole.fits _ hn)) fun found =>
      .given fun d => .assuming fun described => ?_
    obtain ⟨rfl, hd, howner⟩ := described
    refine .bind (sight_known_triple hsight) fun y => .assuming fun hy => ?_
    subst hy
    refine .check_bind ((Spelling.name_toText _).trans
      (congrArg Except.ok (Path.lastName_child p n))) ?_
    refine .bind (attributes_triple (known _ howner)) fun a => .assuming fun shown => ?_
    refine .bind (ih fun text htext => stand text (List.mem_cons_of_mem _ htext)) fun l => .pure ?_
    rintro x t ⟨hx, hl⟩
    refine ⟨hx, ?_⟩
    have first : DirectoryEntry.named ⟨n.text, y, a⟩ = (n.text, y, kind) := by
      rw [DirectoryEntry.named, shown.1, hd]
    rw [whole.rows_cons hkind hmem, hl, List.map_cons, first]
    ext e
    simp

theorem list_tells (h : Handle) :
    Ends Failure.codeOf shows N N (N.tell below.code (.list h))
      (fun l => .names {x | x ∈ l.map DirectoryEntry.named})
      ((Gateway.overAll b directory permissions).list h) := by
  rw [Gateway.list, Namespace.tell]
  refine Tells.run (Tells.resolve fun p hp => ?_)
  obtain ⟨kind, hkind⟩ := whole.kinds_of_pathFor hp
  have fit := whole.fits p (by simp [hkind])
  rw [hkind]
  refine keeps.session_tells fun s => ?_
  cases kind with
  | file =>
    have refused : Tells (during s) N N (.error (Reason.code .io)) (fun _ => ())
        (Act.call (b.list s p.toText)) :=
      Tells.fails rfl fun x hx => keeps.unlisted hx hkind fit
    exact refused.stops
  | directory =>
    refine Act.Triple.bind (keeps.listed_triple s hkind fit) fun texts => .assuming fun htexts => ?_
    refine (keeps.entries_triple whole known s fun text => (htexts text).mp).strengthen_post ?_
    rintro l x t ⟨⟨hx, ht⟩, hl⟩
    rw [Namespace.rows_eq_members htexts] at hl
    exact ⟨hx, ht, congrArg (fun entries => Except.ok (Told.names entries)) hl⟩

end Described

/-- The answer to a request is what the namespace tells, and so is the class of a failure; the
namespace afterwards is the one that follows. -/
theorem perform_tells (known : ∀ owner, owners owner → owner.Known directory) {r : Request}
    (hr : r.Fits fits N.table) :
    Act.Triple (fun x t => shows N.kinds x ∧ t = N.table)
      ((Gateway.overAll b directory permissions).perform r)
      (fun answer x t => (shows (N.after r).kinds x ∧ t = (N.after r).table) ∧
        N.tell below.code r = .ok answer.told)
      fun f x t => (shows (N.after r).kinds x ∧ t = (N.after r).table) ∧
        N.tell below.code r = .error f.codeOf := by
  have operation : ∀ {α : Type} {view : α → Told} {a : Act σ α} {answer : α → Answer},
      (∀ y, (answer y).told = view y) →
      Ends Failure.codeOf shows N (N.after r) (N.tell below.code r) view a →
      Act.Triple (fun x t => shows N.kinds x ∧ t = N.table) (answer <$> a)
        (fun answer x t => (shows (N.after r).kinds x ∧ t = (N.after r).table) ∧
          N.tell below.code r = .ok answer.told)
        fun f x t => (shows (N.after r).kinds x ∧ t = (N.after r).table) ∧
          N.tell below.code r = .error f.codeOf := by
    intro α view a answer hview ends
    refine .map (Act.Triple.consequence ends (fun _ _ h => h) ?_ ?_)
    · rintro y x t ⟨hx, ht, htold⟩
      exact ⟨⟨hx, ht⟩, by rw [htold, hview]⟩
    · rintro f x t ⟨hx, ht, htold⟩
      rw [whole.after_of_told htold]
      exact ⟨⟨hx, ht⟩, htold⟩
  cases r with
  | getAttributes h => exact operation (fun _ => rfl) (keeps.getAttributes_tells whole known h)
  | create parent name word who mode =>
    exact operation (fun _ => rfl) (keeps.create_tells whole parent name word who mode hr)
  | list h => exact operation (fun _ => rfl) (keeps.list_tells whole known h)
  | lookup parent name => exact operation (fun _ => rfl) (keeps.lookup_tells whole parent name hr)
  | parentOf h => exact operation (fun _ => rfl) (parentOf_tells whole h)
  | commit h => exact operation (fun _ => rfl) (commit_tells h)
  | unoffered what => exact operation (fun _ => rfl) (decline_tells what)
  | checkAccess _ _ => exact hr.elim
  | statistics => exact hr.elim

end Operations

end Backend.KeepsTree

end InodeGateway
