import InodeGateway.Backend.Memory
import InodeGateway.Proofs.World.Triple

/-!
# Backends that keep a tree

What a backend promises when nothing is in its way: the calls of an open session tell of the tree
that the backend keeps, and change it as they say.  How the tree is kept is the backend's own
affair, and so is the reason that it gives for not finding a name below a file.

## Main definitions

* `Kinds`, `Kinds.Closed` — what stands where, and that directories stand above
* `Failure.HasReason` — an error of a backend for a reason
* `Backend.KeepsTree` — the promise

## Main statements

* `Backend.KeepsTree.session_triple` — what is made of the tree within a session is left of it
-/

namespace InodeGateway

/-- What stands at each path, if anything does. -/
abbrev Kinds := Path → Option Kind

/-- The same, with an object at one path. -/
def Kinds.put (T : Kinds) (p : Path) (kind : Kind) : Kinds :=
  fun q => if q = p then some kind else T q

@[simp] theorem Kinds.put_self (T : Kinds) (p : Path) (kind : Kind) : T.put p kind p = some kind :=
  if_pos rfl

theorem Kinds.put_of_ne (T : Kinds) {p q : Path} (kind : Kind) (h : q ≠ p) : T.put p kind q = T q :=
  if_neg h

/-- Whatever has something below it is a directory. -/
def Kinds.Closed (T : Kinds) : Prop := ∀ p n, T (Path.child p n) ≠ none → T p = some .directory

/-- A new object at a free name in a directory leaves it so. -/
theorem Kinds.Closed.put {T : Kinds} (h : T.Closed) {p : Path} {n : Name}
    (hp : T p = some .directory) (hfree : T (p.child n) = none) (kind : Kind) :
    (T.put (p.child n) kind).Closed := by
  intro q m hchild
  have unlike : ∀ {r}, T r ≠ none → r ≠ p.child n := by
    rintro r hr rfl
    exact hr hfree
  by_cases hq : q.child m = p.child n
  · -- The new object stands below the directory that was asked for.
    have hparent := Path.parent?_child q m
    rw [hq, Path.parent?_child] at hparent
    cases hparent
    rw [put_of_ne _ _ (unlike (by simp [hp])), hp]
  · rw [put_of_ne _ _ hq] at hchild
    have hdirectory := h q m hchild
    rw [put_of_ne _ _ (unlike (by simp [hdirectory])), hdirectory]

/-- A root directory and nothing else. -/
def Kinds.bare : Kinds := fun p => if p = .root then some .directory else none

theorem Kinds.bare_closed : bare.Closed := by
  intro p n h
  simp [bare, Path.child, Path.root] at h

/-- The failure is an error of a backend for this reason. -/
def Failure.HasReason (f : Failure) (reason : Reason) : Prop :=
  ∃ message path, f.fault = .backend reason message path

/-- The backend keeps a tree.  Which tree a state shows is told by `shows`, and by `during` while a
session is open; paths that the backend has no room for do not fit.  Who owns an object of the tree
is one of `owners`. -/
structure Backend.KeepsTree {σ : Type} (b : Backend σ) (shows : Kinds → σ → Prop)
    (during : Session → Kinds → σ → Prop) (fits : Path → Prop) (owners : Owner → Prop)
    (below : Reason) : Prop where
  openSession : ∀ {T x}, shows T x → ∃ s y, b.openSession.answer x = (.ok s, y) ∧ during s T y
  release : ∀ {s T x}, during s T x → shows T ((b.release s).answer x).2
  /-- The root may be read. -/
  readable : ∀ {s T x}, during s T x →
    (b.permits s .read Path.root.toText).answer x = (.ok true, x)
  stat : ∀ {s T x p kind}, during s T x → T p = some kind → fits p →
    ∃ d, (b.stat s p.toText).answer x = (.ok d, x) ∧
      d.kind = kind ∧ d.sizeBytes = 0 ∧ owners ⟨d.ownerName, d.ownerZone⟩
  missing : ∀ {s T x p n kind}, during s T x → T p = some kind → T (p.child n) = none →
    fits (p.child n) → ∃ f, (b.stat s (p.child n).toText).answer x = (.error f, x) ∧
      f.HasReason (if kind = .file then below else .notFound)
  occupied : ∀ {s T x p n there kind}, during s T x → T p = some .directory →
    T (p.child n) = some there → fits (p.child n) →
    ∃ f, (b.create s (p.child n).toText kind).answer x = (.error f, x) ∧ f.HasReason .alreadyExists
  parentless : ∀ {s T x p n kind}, during s T x → T p = some .file → T (p.child n) = none →
    fits (p.child n) →
    ∃ f, (b.create s (p.child n).toText kind).answer x = (.error f, x) ∧ f.HasReason .io
  create : ∀ {s T x p n kind}, during s T x → T p = some .directory → T (p.child n) = none →
    fits (p.child n) →
    ∃ y, (b.create s (p.child n).toText kind).answer x = (.ok (), y) ∧
      during s (T.put (p.child n) kind) y
  list : ∀ {s T x p}, during s T x → T p = some .directory → fits p →
    ∃ texts, (b.list s p.toText).answer x = (.ok texts, x) ∧
      ∀ text, text ∈ texts ↔ ∃ n, T (p.child n) ≠ none ∧ text = (p.child n).toText
  unlisted : ∀ {s T x p}, during s T x → T p = some .file → fits p →
    ∃ f, (b.list s p.toText).answer x = (.error f, x) ∧ f.HasReason .io

namespace Backend.KeepsTree

variable {σ α : Type} {b : Backend σ} {shows : Kinds → σ → Prop}
  {during : Session → Kinds → σ → Prop} {fits : Path → Prop} {owners : Owner → Prop}
  {below : Reason}

/-- What is made of the tree within a session is what is left of it. -/
theorem session_triple (keeps : b.KeepsTree shows during fits owners below) {T T' : Kinds}
    {K : Inodes → Prop} {body : Session → Act σ α} {Q : α → Inodes → Prop}
    {F : Failure → Inodes → Prop}
    (hbody : ∀ s, Act.Triple (fun x t => during s T x ∧ K t) (body s)
      (fun a x t => during s T' x ∧ Q a t) fun f x t => during s T x ∧ F f t) :
    Act.Triple (fun x t => shows T x ∧ K t) (Act.withSession b body)
      (fun a x t => shows T' x ∧ Q a t) fun f x t => shows T x ∧ F f t := by
  refine .withSession (.call_ok fun x t ⟨hT, hK⟩ => ?_) hbody ?_ ?_
  · obtain ⟨s, y, heq, hduring⟩ := keeps.openSession hT
    exact ⟨s, y, heq, hduring, hK⟩
  · rintro s a x t ⟨hduring, hQ⟩
    exact ⟨keeps.release hduring, hQ⟩
  · rintro s f x t ⟨hduring, hF⟩
    exact ⟨keeps.release hduring, hF⟩

end Backend.KeepsTree

end InodeGateway
