import InodeGateway.Proofs.Gateway.Density
import InodeGateway.Proofs.Gateway.Permanence
import InodeGateway.Proofs.Memory.Alike
import Mathlib.Data.List.Forall2

/-!
# Handles are names

Two gateways over alike backends have been used differently, and so their tables differ in size, in
order and in what they know.  Asked about the same paths, under whatever handles these have on
either side, they answer alike.

## Main definitions

* `Inodes.SamePath` — two handles that stand for the same path, each in its own table
* `Request.Alike`, `Answer.Alike` — the same but for the handles, which stand for the same paths
* `Gateway.Impartial` — the calls of a gateway go alike over alike states

## Main statements

* `Gateway.Impartial.perform_relates` — alike requests are answered alike
* `Gateway.OpenedAt.afterSteps_naming` — whatever happened before, over backends in memory
-/

namespace InodeGateway

/-- The two handles stand for the same path, each in its own table. -/
def Inodes.SamePath (t t' : Inodes) (h h' : Handle) : Prop :=
  ∃ p, Gateway.pathFor t h = .ok p ∧ Gateway.pathFor t' h' = .ok p

/-- The same request, but for the handles, which stand for the same paths. -/
inductive Request.Alike (t t' : Inodes) : Request → Request → Prop
  | getAttributes {h h' : Handle} (hsame : t.SamePath t' h h') :
      Alike t t' (.getAttributes h) (.getAttributes h')
  | checkAccess {h h' : Handle} (hsame : t.SamePath t' h h') (mask : Num) :
      Alike t t' (.checkAccess h mask) (.checkAccess h' mask)
  | create {h h' : Handle} (hsame : t.SamePath t' h h') (name kind : String) (owner : Principal)
      (mode : Num) : Alike t t' (.create h name kind owner mode) (.create h' name kind owner mode)
  | list {h h' : Handle} (hsame : t.SamePath t' h h') : Alike t t' (.list h) (.list h')
  | lookup {h h' : Handle} (hsame : t.SamePath t' h h') (name : String) :
      Alike t t' (.lookup h name) (.lookup h' name)
  | parentOf {h h' : Handle} (hsame : t.SamePath t' h h') : Alike t t' (.parentOf h) (.parentOf h')
  | statistics : Alike t t' .statistics .statistics
  | commit {h h' : Handle} (hsame : t.SamePath t' h h') : Alike t t' (.commit h) (.commit h')
  | unoffered {what what' : Unoffered} (hoperation : what'.operation = what.operation)
      (hsame : List.Forall₂ (t.SamePath t') what.handles what'.handles) :
      Alike t t' (.unoffered what) (.unoffered what')

/-- The same attributes, but for the handle. -/
def Attributes.Alike (t t' : Inodes) (a a' : Attributes) : Prop :=
  t.SamePath t' a.inode a'.inode ∧ a' = { a with inode := a'.inode }

/-- The same entry, but for the handles. -/
structure DirectoryEntry.Alike (t t' : Inodes) (e e' : DirectoryEntry) : Prop where
  name : e'.name = e.name
  handle : t.SamePath t' e.handle e'.handle
  attributes : e.attributes.Alike t t' e'.attributes

/-- The same answer, but for the handles, which stand for the same paths, and for the number of
objects that have handles. -/
inductive Answer.Alike (t t' : Inodes) : Answer → Answer → Prop
  | attributes {a a' : Attributes} (ha : a.Alike t t' a') :
      Alike t t' (.attributes a) (.attributes a')
  | granted (bits : Nat) : Alike t t' (.granted bits) (.granted bits)
  | handle {h h' : Handle} (hsame : t.SamePath t' h h') : Alike t t' (.handle h) (.handle h')
  | entries {l l' : List DirectoryEntry}
      (hentries : List.Forall₂ (DirectoryEntry.Alike t t') l l') :
      Alike t t' (.entries l) (.entries l')
  | statistics (totalBytes freeBytes : Num) (usedFiles usedFiles' : Nat) :
      Alike t t' (.statistics ⟨totalBytes, freeBytes, usedFiles⟩)
        (.statistics ⟨totalBytes, freeBytes, usedFiles'⟩)
  | done : Alike t t' .done .done

/-- A relation of two tables that outlasts their growth. -/
def Inodes.Outlasts (K : Inodes → Inodes → Prop) : Prop :=
  ∀ ⦃t t₁ t' t₁'⦄, t.Kept t₁ → t'.Kept t₁' → K t t' → K t₁ t₁'

namespace Inodes.Outlasts

variable {K K' : Inodes → Inodes → Prop}

theorem samePath (h h' : Handle) : Outlasts fun t t' => t.SamePath t' h h' :=
  fun _ _ _ _ kept kept' ⟨p, hp, hp'⟩ => ⟨p, kept.resolves h p hp, kept'.resolves h' p hp'⟩

theorem const (P : Prop) : Outlasts fun _ _ => P := fun _ _ _ _ _ _ h => h

theorem and (hK : Outlasts K) (hK' : Outlasts K') : Outlasts fun t t' => K t t' ∧ K' t t' :=
  fun _ _ _ _ kept kept' ⟨h, h'⟩ => ⟨hK kept kept' h, hK' kept kept' h'⟩

end Inodes.Outlasts

namespace Gateway

variable {σ α α' β β' : Type}

/-- The calls of a gateway go alike over alike states: they give the same answers within sessions
that need not have the same number. -/
structure Impartial (g : Gateway σ) (alike : σ → σ → Prop)
    (within : Session → Session → σ → σ → Prop) : Prop where
  openSession : Call.Relates alike g.backend.openSession g.backend.openSession within alike
  stat : ∀ s s' path, Call.Twins (within s s') (g.backend.stat s path) (g.backend.stat s' path)
  permits : ∀ s s' right path,
    Call.Twins (within s s') (g.backend.permits s right path) (g.backend.permits s' right path)
  create : ∀ s s' path kind,
    Call.Twins (within s s') (g.backend.create s path kind) (g.backend.create s' path kind)
  list : ∀ s s' path, Call.Twins (within s s') (g.backend.list s path) (g.backend.list s' path)
  capacity : ∀ space, g.backend.capacity = some space → ∀ s s',
    Call.Twins (within s s') (space s) (space s')
  release : ∀ {s s' b b'}, within s s' b b' →
    alike ((g.backend.release s).answer b).2 ((g.backend.release s').answer b').2
  identity : ∀ s s' owner,
    Call.Twins (within s s') (g.identities.resolve owner) (g.identities.resolve owner)

/-- The calls of any gateway go alike over equal states. -/
theorem impartial_self (g : Gateway σ) :
    g.Impartial (fun b b' => b' = b) fun s s' b b' => s' = s ∧ b' = b where
  openSession := by
    rintro _ b rfl
    rcases heq : g.backend.openSession.answer b with ⟨e | s, v⟩
    · exact .inr ⟨e, v, v, rfl, rfl, rfl⟩
    · exact .inl ⟨s, s, v, v, rfl, rfl, rfl, rfl⟩
  stat _ _ _ := Call.twins_self fun h => h ▸ rfl
  permits _ _ _ _ := Call.twins_self fun h => h ▸ rfl
  create _ _ _ _ := Call.twins_self fun h => h ▸ rfl
  list _ _ _ := Call.twins_self fun h => h ▸ rfl
  capacity _ _ _ _ := Call.twins_self fun h => h ▸ rfl
  release := by
    rintro _ _ _ _ ⟨rfl, rfl⟩
    rfl
  identity _ _ _ := Call.twins_self fun _ => rfl

/-- The states are related by `P` and the tables, which are dense, by `K`. -/
abbrev Sides (g : Gateway σ) (P : σ → σ → Prop) (K : Inodes → Inodes → Prop) : Relation σ σ :=
  fun b t b' t' => P b b' ∧ (g.DenseAt t ∧ g.DenseAt t') ∧ K t t'

/-- Both sides answer, with what `S` relates, or fail alike; either way the states stay related and
the tables dense. -/
abbrev Parallel (g : Gateway σ) (P : σ → σ → Prop) (K : Inodes → Inodes → Prop) (a : Act σ α)
    (a' : Act σ α') (S : α → α' → Inodes → Inodes → Prop) : Prop :=
  Act.Relates (g.Sides P K) a a' (fun x x' => g.Sides P (S x x')) (g.Sides P fun _ _ => True)

namespace Parallel

variable {g : Gateway σ} {P : σ → σ → Prop} {K : Inodes → Inodes → Prop} {a : Act σ α}
  {a' : Act σ α'} {S : α → α' → Inodes → Inodes → Prop}

theorem pure {x : α} {x' : α'} (h : ∀ t t', K t t' → S x x' t t') :
    g.Parallel P K (Pure.pure x) (Pure.pure x') S :=
  Act.Relates.pure fun _ _ _ _ ⟨hP, ht, hK⟩ => ⟨hP, ht, h _ _ hK⟩

theorem fail (f : Failure) : g.Parallel P K (Call.fail f : Act σ α) (Call.fail f : Act σ α') S :=
  Act.Relates.fail fun _ _ _ _ ⟨hP, ht, _⟩ => ⟨hP, ht, trivial⟩

theorem check (r : Except Refusal α) :
    g.Parallel P K (Act.check r) (Act.check r) fun x x' t t' => K t t' ∧ x' = x :=
  (Act.Relates.check r fun _ _ _ _ ⟨hP, ht, _⟩ => ⟨hP, ht, trivial⟩).consequence
    (fun _ _ _ _ h => h) (fun _ _ _ _ _ _ ⟨⟨hP, ht, hK⟩, heq⟩ => ⟨hP, ht, hK, heq⟩)
    fun _ _ _ _ h => h

theorem call {c c' : Call σ α} (h : Call.Twins P c c') :
    g.Parallel P K (Act.call c) (Act.call c') fun x x' t t' => K t t' ∧ x' = x :=
  (Act.Relates.call h fun t t' => (g.DenseAt t ∧ g.DenseAt t') ∧ K t t').consequence
    (fun _ _ _ _ h => h)
    (fun _ _ _ _ _ _ ⟨⟨hP, heq⟩, ht, hK⟩ => ⟨hP, ht, hK, heq⟩)
    fun _ _ _ _ ⟨hP, ht, _⟩ => ⟨hP, ht, trivial⟩

/-- Equal answers are one answer for what follows. -/
theorem bindEq {a a' : Act σ α} {k : α → Act σ β} {k' : α → Act σ β'}
    {S : β → β' → Inodes → Inodes → Prop}
    (ha : g.Parallel P K a a' fun x x' t t' => K t t' ∧ x' = x)
    (hk : ∀ x, g.Parallel P K (k x) (k' x) S) : g.Parallel P K (a >>= k) (a' >>= k') S := by
  refine Act.Relates.bind ha fun x x' => ?_
  rintro w w' ⟨hP, ht, hK, rfl⟩
  exact hk _ w w' ⟨hP, ht, hK⟩

/-- What follows equal answers may be said as well. -/
theorem bind {k : α → Act σ β} {k' : α' → Act σ β'} {S' : β → β' → Inodes → Inodes → Prop}
    (ha : g.Parallel P K a a' S) (hk : ∀ x x', g.Parallel P (S x x') (k x) (k' x') S') :
    g.Parallel P K (a >>= k) (a' >>= k') S' :=
  Act.Relates.bind ha hk

theorem strengthen (h : g.Parallel P K a a' S) {S' : α → α' → Inodes → Inodes → Prop}
    (hS : ∀ x x' t t', S x x' t t' → S' x x' t t') : g.Parallel P K a a' S' :=
  h.consequence (fun _ _ _ _ h => h) (fun x x' _ _ _ _ ⟨hP, ht, hs⟩ => ⟨hP, ht, hS x x' _ _ hs⟩)
    fun _ _ _ _ h => h

theorem weaken (h : g.Parallel P K a a' S) {K' : Inodes → Inodes → Prop}
    (hK : ∀ t t', K' t t' → K t t') : g.Parallel P K' a a' S :=
  h.consequence (fun _ _ _ _ ⟨hP, ht, hk⟩ => ⟨hP, ht, hK _ _ hk⟩) (fun _ _ _ _ _ _ h => h)
    fun _ _ _ _ h => h

theorem explain (f : Failure → Failure) (h : g.Parallel P K a a' S) :
    g.Parallel P K (a.explain f) (a'.explain f) S :=
  Act.Relates.explain f h

theorem map {f : α → β} {f' : α' → β'} {S' : β → β' → Inodes → Inodes → Prop}
    (h : g.Parallel P K a a' fun x x' => S' (f x) (f' x')) :
    g.Parallel P K (f <$> a) (f' <$> a') S' :=
  Act.Relates.map h

/-- What an operation returns becomes its answer. -/
theorem answered (h : g.Parallel P K a a' S) {K' : Inodes → Inodes → Prop}
    (hK : ∀ t t', K' t t' → K t t') {f : α → Answer} {f' : α' → Answer}
    (hS : ∀ x x' t t', S x x' t t' → (f x).Alike t t' (f' x')) :
    g.Parallel P K' (f <$> a) (f' <$> a') fun x x' t t' => x.Alike t t' x' :=
  .map ((h.weaken hK).strengthen hS)

/-- What is written into the journal may tell handles. -/
theorem note {level level' : Journal.Level} {message message' : String}
    {fields fields' : Journal.Fields} :
    g.Parallel P K (Act.note level message fields) (Act.note level' message' fields')
      fun _ _ => K :=
  Act.Relates.note

/-- A path gets a handle on either side, and sight of it does not fail. -/
theorem sightPath (hK : Inodes.Outlasts K) (p : Path) :
    g.Parallel P K (Gateway.sightPath p) (Gateway.sightPath p)
      fun h h' t t' => K t t' ∧ t.SamePath t' h h' := by
  refine .explain collision (Act.Relates.table ?_)
  rintro b t b' t' ⟨hP, ⟨ht, ht'⟩, hKt⟩
  have sighted : ∀ {t}, g.DenseAt t → ∃ h, (t.sightPath p).1 = .ok h ∧ t.Kept (t.sightPath p).2 ∧
      g.DenseAt (t.sightPath p).2 ∧ pathFor (t.sightPath p).2 h = .ok p := by
    intro t ht
    obtain ⟨h, hh⟩ := ht.dense.sightPath_ok p
    have longer := t.entries_prefix_sightPath p
    have dense := ht.dense.sightPath p
    refine ⟨h, hh, kept_of_prefix ht.dense.coherent dense.coherent longer,
      ⟨dense, longer.subset ht.rooted⟩, ?_⟩
    exact (pathFor_iff dense.coherent).mpr (ht.dense.coherent.mem_of_sightPath hh)
  obtain ⟨h, hh, kept, after, hp⟩ := sighted ht
  obtain ⟨h', hh', kept', after', hp'⟩ := sighted ht'
  refine .inl ⟨h, h', (t.sightPath p).2, (t'.sightPath p).2, Prod.ext hh rfl, Prod.ext hh' rfl, ?_⟩
  exact ⟨hP, ⟨after, after'⟩, hK kept kept' hKt, p, hp, hp'⟩

theorem sight (hK : Inodes.Outlasts K) (text : String) :
    g.Parallel P K (Gateway.sight text) (Gateway.sight text)
      fun h h' t t' => K t t' ∧ t.SamePath t' h h' := by
  unfold Gateway.sight
  cases htext : Path.ofText text with
  | error r =>
    -- A text that spells no path is refused on both sides.
    refine .explain collision (Act.Relates.table ?_)
    rintro b t b' t' ⟨hP, ht, -⟩
    have unread : ∀ t : Inodes, t.sight text = (.error r, t) := fun t => by
      simp [Inodes.sight, htext]
    exact .inr ⟨r, t, t', unread t, unread t', hP, ht, trivial⟩
  | ok p =>
    have same : (fun t : Inodes => t.sight text) = fun t => t.sightPath p := by
      funext t
      simp [Inodes.sight, htext]
    rw [same]
    exact sightPath hK p

/-- The handle of the root stands for the root. -/
theorem root :
    g.Parallel P K (Pure.pure Handle.root) (Pure.pure Handle.root)
      fun h h' t t' => K t t' ∧ t.SamePath t' h h' :=
  Act.Relates.pure fun _ _ _ _ ⟨hP, ht, hKt⟩ => ⟨hP, ht, hKt, g.rootPath,
    (pathFor_iff ht.1.dense.coherent).mpr ht.1.rooted,
    (pathFor_iff ht.2.dense.coherent).mpr ht.2.rooted⟩

theorem parentHandle (hK : Inodes.Outlasts K) (p : Path) :
    g.Parallel P K (g.parentHandle p) (g.parentHandle p)
      fun h h' t t' => K t t' ∧ t.SamePath t' h h' := by
  unfold Gateway.parentHandle
  split
  · exact root
  · cases p.parent? with
    | none => exact root
    | some q =>
      simp only
      split
      · exact sightPath hK q
      · exact root

/-- Handles for the same path resolve to it. -/
theorem resolve {h h' : Handle} (hsame : ∀ t t', K t t' → t.SamePath t' h h') :
    g.Parallel P K (Gateway.resolve h) (Gateway.resolve h')
      fun p p' t t' => K t t' ∧ p' = p := by
  show g.Parallel P K (Act.table fun t => (pathFor t h, t)) (Act.table fun t => (pathFor t h', t)) _
  refine Act.Relates.table ?_
  rintro b t b' t' ⟨hP, ht, hKt⟩
  obtain ⟨p, hp, hp'⟩ := hsame t t' hKt
  exact .inl ⟨p, p, t, t', Prod.ext hp rfl, Prod.ext hp' rfl, hP, ht, hKt, rfl⟩

/-- What the relation of the tables says regardless of them may be used. -/
theorem given (h : ∀ t t', K t t' → g.Parallel P K a a' S) : g.Parallel P K a a' S :=
  fun w w' hw => h _ _ hw.2.2 w w' hw

/-- What is said regardless of the tables may be assumed. -/
theorem assuming {Q : Prop} (h : Q → g.Parallel P K a a' S) :
    g.Parallel P (fun t t' => K t t' ∧ Q) a a' S :=
  fun w w' ⟨hP, ht, hK, hQ⟩ => h hQ w w' ⟨hP, ht, hK⟩

theorem run {operation operation' : Operation} {context context' : Journal.Fields}
    (h : g.Parallel P K a a' S) :
    g.Parallel P K (run operation context a) (Gateway.run operation' context' a') S := by
  intro w w' hw
  rw [Gateway.run, Gateway.run, Call.answer_of, Call.answer_of]
  rcases h w w' hw with ⟨x, x', v, v', heq, heq', ends⟩ | ⟨e, v, v', heq, heq', ends⟩
  · rw [heq, heq']
    exact .inl ⟨x, x', _, _, rfl, rfl, ends⟩
  · rw [heq, heq']
    exact .inr ⟨restate e, _, _, rfl, rfl, ends⟩

theorem parentOf {h h' : Handle} : g.Parallel P (fun t t' => t.SamePath t' h h') (g.parentOf h)
    (g.parentOf h') fun x x' t t' => t.SamePath t' x x' := by
  refine .run (.bindEq (.resolve fun _ _ hsame => hsame) fun p => ?_)
  exact (Parallel.parentHandle (.samePath h h') p).strengthen fun _ _ _ _ h => h.2

theorem commit {h h' : Handle} : g.Parallel P (fun t t' => t.SamePath t' h h') (g.commit h)
    (g.commit h') fun _ _ _ _ => True :=
  .run (.bindEq (.resolve fun _ _ hsame => hsame) fun _ => .pure fun _ _ _ => trivial)

/-- What is not offered is refused on both sides. -/
theorem decline {handles handles' : List Handle} (operation : Operation) :
    g.Parallel P (fun t t' => List.Forall₂ (t.SamePath t') handles handles')
      (g.decline operation handles) (g.decline operation handles') fun _ _ _ _ => True := by
  have resolved : g.Parallel P (fun t t' => List.Forall₂ (t.SamePath t') handles handles')
      (resolveAll handles) (resolveAll handles') fun _ _ _ _ => True := by
    induction handles generalizing handles' with
    | nil =>
      refine .given fun t t' hall => ?_
      cases hall
      exact .pure fun _ _ _ => trivial
    | cons h rest ih =>
      refine .given fun t t' hall => ?_
      cases hall
      refine .bindEq (.resolve fun _ _ hall => (List.forall₂_cons.mp hall).1) fun _ => ?_
      exact ih.weaken fun _ _ hall => (List.forall₂_cons.mp hall).2
  exact .run (.bind resolved fun _ _ => .fail _)

end Parallel

namespace Impartial

variable {g : Gateway σ} {alike : σ → σ → Prop} {within : Session → Session → σ → σ → Prop}
  (M : g.Impartial alike within) {K : Inodes → Inodes → Prop}
include M

/-- What goes alike within a session goes alike when the session is opened before it and released
after it. -/
theorem session {body body' : Session → Act σ α} {S : α → α → Inodes → Inodes → Prop}
    (hbody : ∀ s s', g.Parallel (within s s') K (body s) (body' s') S) :
    g.Parallel alike K (Act.withSession g.backend body) (Act.withSession g.backend body') S := by
  have opened := Act.Relates.call M.openSession fun t t' => (g.DenseAt t ∧ g.DenseAt t') ∧ K t t'
  refine .withSession (opened.consequence (fun _ _ _ _ h => h) (fun _ _ _ _ _ _ h => h) ?_) hbody
    ?_ ?_
  · exact fun _ _ _ _ ⟨hP, ht, _⟩ => ⟨hP, ht, trivial⟩
  · exact fun _ _ _ _ _ _ _ _ ⟨hP, ht, hs⟩ => ⟨M.release hP, ht, hs⟩
  · exact fun _ _ _ _ _ _ ⟨hP, ht, _⟩ => ⟨M.release hP, ht, trivial⟩

variable {s s' : Session}

/-- The attributes of an object differ in the handle only. -/
theorem ofMetadata (h h' : Handle) (m : Metadata) :
    g.Parallel (within s s') K (Attributes.ofMetadata g.identities g.permissions h m)
      (Attributes.ofMetadata g.identities g.permissions h' m)
      fun a a' t t' => K t t' ∧ a.inode = h ∧ a'.inode = h' ∧ a' = { a with inode := h' } := by
  have asked : g.Parallel (within s s') K (Attributes.askUserId g.identities m)
      (Attributes.askUserId g.identities m) fun x x' t t' => K t t' ∧ x' = x := by
    refine .bindEq (.explain _ (.call (M.identity s s' _))) fun text => ?_
    cases text with
    | none => exact .fail _
    | some text => exact .check _
  refine .bindEq asked fun userId => .bind .note fun _ _ => .pure fun _ _ hK => ?_
  exact ⟨hK, rfl, rfl, rfl⟩

theorem probe (path : String) (mask : Num) :
    g.Parallel (within s s') K (Access.probe g.backend s path mask)
      (Access.probe g.backend s' path mask) fun x x' t t' => K t t' ∧ x' = x := by
  have asked : ∀ right, g.Parallel (within s s') K (Access.ask g.backend s path mask right)
      (Access.ask g.backend s' path mask right) fun x x' t t' => K t t' ∧ x' = x := by
    intro right
    unfold Access.ask
    split
    · exact .call (M.permits s s' right path)
    · exact .pure fun _ _ hK => ⟨hK, rfl⟩
  have noted : ∀ (bits : Nat) (fields fields' : Journal.Fields), g.Parallel (within s s') K
      (do Act.note .debug Access.probedMessage fields; pure bits)
      (do Act.note .debug Access.probedMessage fields'; pure bits)
      fun x x' t t' => K t t' ∧ x' = x :=
    fun _ _ _ => .bind .note fun _ _ => .pure fun _ _ hK => ⟨hK, rfl⟩
  refine .bindEq (asked .execute) fun execute => .bindEq (asked .write) fun write => ?_
  cases write with
  | true => exact .bindEq (.pure fun _ _ hK => ⟨hK, rfl⟩) fun read => noted _ _ _
  | false => exact .bindEq (asked .read) fun read => noted _ _ _

theorem space : g.Parallel (within s s') K (g.space s) (g.space s')
    fun x x' t t' => K t t' ∧ x' = x := by
  unfold Gateway.space
  cases hcapacity : g.backend.capacity with
  | none => exact .pure fun _ _ hK => ⟨hK, rfl⟩
  | some space => exact .call (M.capacity space hcapacity s s')

/-- A child is there on both sides, or it is gone on both. -/
theorem statOptional (child : String) :
    g.Parallel (within s s') K (g.statOptional s child) (g.statOptional s' child)
      fun x x' t t' => K t t' ∧ x' = x := by
  have described := Act.Relates.call (M.stat s s' child) fun t t' =>
    (g.DenseAt t ∧ g.DenseAt t') ∧ K t t'
  -- Even if the description fails, the tables are as they were.
  have looked : Act.Relates (g.Sides (within s s') K) (some <$> Act.call (g.backend.stat s child))
      (some <$> Act.call (g.backend.stat s' child))
      (fun x x' => g.Sides (within s s') fun t t' => K t t' ∧ x' = x) (g.Sides (within s s') K) :=
    .map (described.consequence (fun _ _ _ _ h => h)
      (fun _ _ _ _ _ _ ⟨⟨hP, heq⟩, ht, hK⟩ => ⟨hP, ht, hK, congrArg some heq⟩) fun _ _ _ _ h => h)
  refine (looked.orMissing fun _ _ _ _ ⟨hP, ht, hK⟩ => ⟨hP, ht, hK, rfl⟩).consequence
    (fun _ _ _ _ h => h) (fun _ _ _ _ _ _ h => h) fun _ _ _ _ ⟨hP, ht, _⟩ => ⟨hP, ht, trivial⟩

/-- The entries of children differ in the handles only. -/
theorem entries (hK : Inodes.Outlasts K) (children : List String) :
    g.Parallel (within s s') K (g.entries s children) (g.entries s' children)
      fun l l' t t' => K t t' ∧ List.Forall₂ (DirectoryEntry.Alike t t') l l' := by
  induction children generalizing K with
  | nil => exact .pure fun _ _ hKt => ⟨hKt, .nil⟩
  | cons child rest ih =>
    refine .bindEq (M.statOptional child) fun found => ?_
    cases found with
    | none => exact .bind .note fun _ _ => ih hK
    | some m =>
      refine .bind (.sight hK child) fun h h' => .bindEq (.check _) fun name => ?_
      refine .bind (M.ofMetadata h h' m) fun a a' => ?_
      refine .bind (ih ((hK.and (.samePath h h')).and (.const _))) fun l l' => .pure ?_
      rintro t t' ⟨⟨⟨hKt, hsame⟩, rfl, rfl, heq⟩, hrest⟩
      exact ⟨hKt, .cons ⟨rfl, hsame, hsame, heq⟩ hrest⟩

variable {h h' : Handle}

theorem getAttributes_parallel : g.Parallel alike (fun t t' => t.SamePath t' h h')
    (g.getAttributes h) (g.getAttributes h') fun a a' t t' => a.Alike t t' a' := by
  refine .run (.bindEq (.resolve fun _ _ hsame => hsame) fun p => M.session fun s s' => ?_)
  refine .bindEq (.call (M.stat s s' _)) fun m => (M.ofMetadata h h' m).strengthen ?_
  rintro a a' t t' ⟨hsame, rfl, rfl, heq⟩
  exact ⟨hsame, heq⟩

theorem checkAccess_parallel (mask : Num) : g.Parallel alike (fun t t' => t.SamePath t' h h')
    (g.checkAccess h mask) (g.checkAccess h' mask) fun bits bits' _ _ => bits' = bits := by
  refine .run (.bindEq (.check _) fun _ => .bindEq (.resolve fun _ _ hsame => hsame) fun p => ?_)
  exact .explain _ (M.session fun s s' => (M.probe p.toText _).strengthen fun _ _ _ _ h => h.2)

/-- The new object has the same path on both sides. -/
theorem create_parallel (name kind : String) (owner : Principal) (mode : Num) :
    g.Parallel alike (fun t t' => t.SamePath t' h h') (g.create h name kind owner mode)
      (g.create h' name kind owner mode) fun x x' t t' => t.SamePath t' x x' := by
  have checked : g.Parallel alike (fun t t' => t.SamePath t' h h')
      (Act.check (Creation.check h name kind owner mode))
      (Act.check (Creation.check h' name kind owner mode))
      fun c c' t t' => t.SamePath t' h h' ∧ c' = { c with parent := h' } := by
    refine .given fun t t' ⟨p, hp, hp'⟩ => ?_
    rw [Creation.check_parent (pathFor_eq_ok_iff.mp hp).1 (pathFor_eq_ok_iff.mp hp').1]
    cases Creation.check h name kind owner mode with
    | error e => exact .fail _
    | ok c => exact .pure fun _ _ hsame => ⟨hsame, rfl⟩
  have found : g.Parallel alike (fun t t' => t.SamePath t' h h') (Act.look fun t => t.pathOf h)
      (Act.look fun t => t.pathOf h') fun p p' t t' => t.SamePath t' h h' ∧ p' = p := by
    refine Act.Relates.table fun b t b' t' ⟨hP, ht, p, hp, hp'⟩ => ?_
    have known := Inodes.pathOf_eq_ok_iff.mpr (pathFor_eq_ok_iff.mp hp).2
    have known' := Inodes.pathOf_eq_ok_iff.mpr (pathFor_eq_ok_iff.mp hp').2
    exact .inl ⟨p, p, t, t', Prod.ext known rfl, Prod.ext known' rfl, hP, ht, ⟨p, hp, hp'⟩, rfl⟩
  refine .run (.bind checked fun wanted wanted' => .assuming fun heq => ?_)
  subst heq
  refine .bindEq found fun p => .bind .note fun _ _ => ?_
  refine .bindEq (M.session fun s s' => .call (M.create s s' _ _)) fun _ => ?_
  refine .bind (.sightPath (.samePath h h') _) fun x x' => ?_
  exact .bind .note fun _ _ => .bind .note fun _ _ => .pure fun _ _ h => h.2

theorem list_parallel : g.Parallel alike (fun t t' => t.SamePath t' h h') (g.list h) (g.list h')
    fun l l' t t' => List.Forall₂ (DirectoryEntry.Alike t t') l l' := by
  refine .run (.bindEq (.resolve fun _ _ hsame => hsame) fun p => M.session fun s s' => ?_)
  refine .bindEq (.call (M.list s s' _)) fun children => ?_
  exact (M.entries (.samePath h h') children).strengthen fun _ _ _ _ h => h.2

theorem lookup_parallel (name : String) : g.Parallel alike (fun t t' => t.SamePath t' h h')
    (g.lookup h name) (g.lookup h' name) fun x x' t t' => t.SamePath t' x x' := by
  refine .run (.bindEq (.resolve fun _ _ hsame => hsame) fun p => ?_)
  split
  · exact .pure fun _ _ hsame => hsame
  · split
    · exact (Parallel.parentHandle (.samePath h h') p).strengthen fun _ _ _ _ h => h.2
    · refine .bindEq (.check _) fun n => ?_
      refine .bindEq (M.session fun s s' => .call (M.stat s s' _)) fun _ => ?_
      exact (Parallel.sightPath (.samePath h h') _).strengthen fun _ _ _ _ h => h.2

/-- The number of objects that have handles is counted on either side for itself. -/
theorem statistics_parallel : g.Parallel alike (fun _ _ => True) g.statistics g.statistics
    fun x x' _ _ => x' = { x with usedFiles := x'.usedFiles } := by
  refine .run (.bindEq (M.session fun s s' => M.space) fun space => ?_)
  have counted : g.Parallel alike (fun _ _ => True) (Act.look fun t => .ok t.size)
      (Act.look fun t => .ok t.size) fun _ _ _ _ => True :=
    Act.Relates.table fun b t b' t' hw => .inl ⟨t.size, t'.size, t, t', rfl, rfl, hw⟩
  exact .bind counted fun _ _ => .pure fun _ _ _ => rfl

/-- Alike requests are answered alike. -/
theorem perform_relates (r r' : Request) :
    g.Parallel alike (fun t t' => r.Alike t t' r') (g.perform r) (g.perform r')
      fun x x' t t' => x.Alike t t' x' := by
  -- Alike requests are of the same kind; what else is alike is asked of the tables once more.
  refine .given fun t t' halike => ?_
  cases halike with
  | getAttributes =>
    refine M.getAttributes_parallel.answered (fun _ _ halike => ?_) fun _ _ _ _ ha => .attributes ha
    cases halike with
    | getAttributes hsame => exact hsame
  | checkAccess _ mask =>
    refine (M.checkAccess_parallel mask).answered (fun _ _ halike => ?_) ?_
    · cases halike with
      | checkAccess hsame => exact hsame
    · rintro _ bits _ _ rfl
      exact .granted bits
  | create _ name kind owner mode =>
    refine (M.create_parallel name kind owner mode).answered (fun _ _ halike => ?_)
      fun _ _ _ _ hsame => .handle hsame
    cases halike with
    | create hsame => exact hsame
  | list =>
    refine M.list_parallel.answered (fun _ _ halike => ?_) fun _ _ _ _ hentries =>
      .entries hentries
    cases halike with
    | list hsame => exact hsame
  | lookup _ name =>
    refine (M.lookup_parallel name).answered (fun _ _ halike => ?_) fun _ _ _ _ hsame =>
      .handle hsame
    cases halike with
    | lookup hsame => exact hsame
  | parentOf =>
    refine Parallel.parentOf.answered (fun _ _ halike => ?_) fun _ _ _ _ hsame => .handle hsame
    cases halike with
    | parentOf hsame => exact hsame
  | statistics =>
    refine M.statistics_parallel.answered (fun _ _ _ => trivial) ?_
    rintro ⟨totalBytes, freeBytes, usedFiles⟩ x' _ _ heq
    rw [heq]
    exact .statistics totalBytes freeBytes usedFiles _
  | commit =>
    refine Parallel.commit.answered (fun _ _ halike => ?_) fun _ _ _ _ _ => .done
    cases halike with
    | commit hsame => exact hsame
  | unoffered hoperation =>
    simp only [Gateway.perform, hoperation]
    refine (Parallel.decline _).answered (fun _ _ halike => ?_) fun _ _ _ _ _ => .done
    cases halike with
    | unoffered _ hsame => exact hsame

/-- Alike requests leave the states alike. -/
theorem after_alike {w w' : World σ} {r r' : Request} (hw : alike w.backend w'.backend)
    (dense : g.DenseAt w.inodes ∧ g.DenseAt w'.inodes) (hrequest : r.Alike w.inodes w'.inodes r') :
    alike (g.after w r).backend (g.after w' r').backend := by
  rcases M.perform_relates r r' w w' ⟨hw, dense, hrequest⟩ with
    ⟨x, x', v, v', heq, heq', hP, -⟩ | ⟨e, v, v', heq, heq', hP, -⟩ <;>
    simpa only [after, heq, heq'] using hP

end Impartial

section OverTree

variable (directory : Identity.Directory) (permissions : PermissionModel) (rootPath : Path)

/-- A gateway over a tree in memory. -/
def overTree : Gateway Memory := ⟨Memory.backend, directory, permissions, rootPath⟩

/-- A gateway over a tree in memory takes no notice of the sessions of the past. -/
theorem overTree_impartial :
    (overTree directory permissions rootPath).Impartial Memory.Alike Memory.Within where
  openSession := Memory.Alike.openSession
  stat s s' path := Memory.withinAt_twins (fun _ _ _ => rfl) s s' path
  permits s s' right path := Memory.withinAt_twins (fun _ _ _ => rfl) s s' path
  create := Memory.create_twins
  list s s' path := Memory.within_twins (fun _ _ => rfl) s s'
  capacity space hspace s s' := by
    obtain rfl := Option.some.inj hspace
    exact Memory.within_twins (fun _ _ => rfl) s s'
  release h := h.release
  identity s s' owner m m' h := by
    cases heq : directory.resolve owner with
    | error e => exact .inr ⟨e, m, m', Prod.ext heq rfl, Prod.ext heq rfl, h⟩
    | ok text => exact .inl ⟨text, text, m, m', Prod.ext heq rfl, Prod.ext heq rfl, h, rfl⟩

/-- Two requests to gateways over trees in memory are answered alike, and leave the trees alike. -/
structure AnswersAlike (g : Gateway Memory) (w w' : World Memory) (r r' : Request) : Prop where
  outcome :
    match ((g.perform r).answer w).1, ((g.perform r').answer w').1 with
    | .ok x, .ok x' => x.Alike (g.after w r).inodes (g.after w' r').inodes x'
    | .error e, .error e' => e' = e
    | _, _ => False
  backend : Memory.Alike (g.after w r).backend (g.after w' r').backend
  /-- Backends that were the same, down to the sessions of the past, are so still. -/
  same : w'.backend = w.backend → (g.after w' r').backend = (g.after w r).backend

variable {directory permissions rootPath} {root root' : String} {w w' : World Memory}

/-- Two gateways were opened and used in any way; nobody wrote into their tables past them.  Over
alike trees, requests about the same paths are answered alike, whatever handles stand for the
paths. -/
theorem OpenedAt.afterSteps_naming {g : Gateway Memory}
    (hg : g = overTree directory permissions rootPath) (opened : g.OpenedAt root w)
    (opened' : g.OpenedAt root' w') {steps steps' : List (Step Memory)}
    (hsteps : ∀ step ∈ steps, ¬ step.Plants) (hsteps' : ∀ step ∈ steps', ¬ step.Plants)
    (halike : Memory.Alike (g.afterSteps w steps).backend (g.afterSteps w' steps').backend)
    {r r' : Request}
    (hrequest : r.Alike (g.afterSteps w steps).inodes (g.afterSteps w' steps').inodes r') :
    g.AnswersAlike (g.afterSteps w steps) (g.afterSteps w' steps') r r' := by
  subst hg
  have dense := And.intro (opened.denseAt.afterSteps hsteps) (opened'.denseAt.afterSteps hsteps')
  have impartial := overTree_impartial directory permissions rootPath
  refine ⟨?_, impartial.after_alike halike dense hrequest,
    fun hsame => (impartial_self _).after_alike hsame dense hrequest⟩
  rcases impartial.perform_relates r r' _ _ ⟨halike, dense, hrequest⟩ with
    ⟨x, x', v, v', heq, heq', -, -, hx⟩ | ⟨e, v, v', heq, heq', -⟩ <;> simp only [after, heq, heq']
  exact hx

/-- A gateway that has made two directories. -/
def usedTree : World Memory := overMemory.afterSteps openTree
  [.request (.create 1 "a" "directory" ⟨0, 0⟩ 493), .request (.create 1 "b" "directory" ⟨0, 0⟩ 493)]

/-- The same tree after a restart: the gateway was opened anew, and the root is all it knows. -/
def restartedTree : World Memory :=
  ((establish overMemory.backend overMemory.identities overMemory.permissions "/").answer
    { backend := usedTree.backend }).2

/-- The second directory got the third handle.  After the restart it is looked up at once, and gets
the second handle; its attributes are the same. -/
theorem overMemory_naming :
    overMemory.AnswersAlike usedTree
      (overMemory.afterSteps restartedTree [.request (.lookup 1 "b")])
      (.getAttributes 3) (.getAttributes 2) := by
  have reopened : overMemory.OpenedAt "/" restartedTree :=
    ⟨overMemory.backend, overMemory.identities, overMemory.permissions,
      { backend := usedTree.backend }, rfl, rfl⟩
  refine OpenedAt.afterSteps_naming rfl overMemory_openedAt reopened ?_ ?_ ?_ ?_
  · simp [Step.Plants]
  · simp [Step.Plants]
  · exact ⟨rfl, rfl⟩
  · exact .getAttributes ⟨_, rfl, rfl⟩

end OverTree

end Gateway

end InodeGateway
