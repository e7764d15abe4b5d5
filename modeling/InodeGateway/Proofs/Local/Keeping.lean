import InodeGateway.Proofs.Backend.Keeping
import InodeGateway.Proofs.Disk.Contents
import InodeGateway.Proofs.Local.Resolution

/-!
# A directory of the disk keeps a tree

A directory of the local disk, with no links in it and with all rights on it for the user who asks,
keeps the tree of what stands below it.  It has room for what the file system can read.  A name below
a file is not missing there: the file system reports that something on the way is no directory, for
which the backend has no reason of its own.

## Main definitions

* `Path.under` — a path seen from the root of the disk
* `Local.Shows` — the directory shows a tree
* `Local.Vacant` — the directory is empty
* `Local.Holder` — who may own what is in such a directory

## Main statements

* `Local.keepsTree` — the backend keeps that tree
-/

namespace InodeGateway

/-- The path of what lies at `p` below `base`. -/
def Path.under (base p : Path) : Path := ⟨base.names ++ p.names⟩

@[simp] theorem Path.under_root (base : Path) : base.under .root = base := by
  simp [under, root]

@[simp] theorem Path.under_child (base p : Path) (n : Name) :
    base.under (p.child n) = (base.under p).child n := by
  simp [under, child]

theorem Path.place_under (base p : Path) : (base.under p).place = base.place ++ p.place := by
  simp [place, under]

namespace Local

variable {α : Type} {l : Local} {base p : Path} {n : Name} {s : Session} {T : Kinds}
  {owners : Owner → Prop}

/-- A path resolves to its place; of the root of the disk that is said for the root alone. -/
theorem resolve_toText (reached : base = .root → p = .root) :
    resolve base.place p.toText = .ok (base.under p).place := by
  have passes : ¬ (base.place = [] ∧ p ≠ .root) :=
    fun h => h.2 (reached (Path.place_injective h.1))
  rw [resolve_of_ofText _ p.ofText_toText, if_neg passes, Path.place_under]

/-- No path has a character in it for which the disk cannot be asked. -/
theorem printable (p : Path) :
    Disk.nulFailure? "path" (Disk.Place.toText p.place) = none := by
  rw [Disk.nulFailure?, Path.toText_place, Path.toText, String.toList_ofList,
    if_neg p.nul_not_mem_chars]

/-- A call of an open session is a call on the disk at the place of its path. -/
theorem answer_within (hs : l.sessions.isReleased s = false) (hroot : l.root = base.place)
    (reached : base = .root → p = .root) {f : Local → Disk.Place → Except Errno (α × Disk)} {a : α}
    {disk : Disk}
    (hf : f l (base.under p).place = .ok (a, disk)) :
    (within s p.toText f).answer l = (.ok a, { l with disk := disk }) := by
  rw [within, Call.answer_of, Sessions.ensureOpen, hs, hroot, resolve_toText reached]
  simp only [printable, hf, Bool.false_eq_true, if_false]

/-- An error of the disk is reported. -/
theorem answer_within_error (hs : l.sessions.isReleased s = false) (hroot : l.root = base.place)
    (reached : base = .root → p = .root) {f : Local → Disk.Place → Except Errno (α × Disk)}
    {e : Errno}
    (hf : f l (base.under p).place = .error e) :
    (within s p.toText f).answer l = (.error (report p.toText e), l) := by
  rw [within, Call.answer_of, Sessions.ensureOpen, hs, hroot, resolve_toText reached]
  simp only [printable, hf, Bool.false_eq_true, if_false]

theorem answer_reading (hs : l.sessions.isReleased s = false) (hroot : l.root = base.place)
    (reached : base = .root → p = .root) (f : Local → Disk.Place → Except Errno α) :
    (reading s p.toText f).answer l =
      ((f l (base.under p).place).mapError (report p.toText), l) := by
  rw [reading]
  cases hf : f l (base.under p).place with
  | error e => exact answer_within_error hs hroot reached (by rw [hf]; rfl)
  | ok a => exact answer_within hs hroot reached (by rw [hf]; rfl)

theorem hasReason_report (text : String) (e : Errno) : (report text e).HasReason e.reason :=
  ⟨_, _, rfl⟩

/-- Who a user is to clients. -/
def ownerOf (l : Local) (user : Nat) : Owner := ⟨toString user, l.zone⟩

/-- The directory at `base` shows the tree: each of its objects stands below the directory, with all
rights for the user who asks, and nothing else does.  One of `owners` owns the object, as this user
does.  The way to the directory leads through directories. -/
structure Shows (base : Path) (owners : Owner → Prop) (T : Kinds) (l : Local) : Prop where
  root : l.root = base.place
  maker : owners (l.ownerOf l.disk.userId)
  way : ∀ {q : Path}, q.contains base → l.disk.Passable q.place
  rooted : T .root = some .directory
  closed : T.Closed
  stands : ∀ {p kind}, T p = some kind → ∃ e, l.disk.entry? (base.under p).place = some e ∧
    e.Stands l.disk.userId kind ∧ owners (l.ownerOf e.owner)
  only : ∀ place, l.disk.entry? (base.place ++ place) ≠ none → ∃ p, T p ≠ none ∧ place = p.place

/-- What the file system can read below the directory. -/
def Fits (base p : Path) : Prop := Disk.Reads (base.under p)

namespace Shows

variable {kind : Kind} {q : Path} {goal : Disk.Goal}

theorem withSessions (h : Shows base owners T l) (sessions : Sessions) :
    Shows base owners T { l with sessions := sessions } :=
  ⟨h.root, h.maker, h.way, h.rooted, h.closed, h.stands, h.only⟩

/-- The way to a directory of the tree can be passed, and so can the directory. -/
theorem passable (h : Shows base owners T l) (hp : T p = some .directory)
    (hq : q.contains (base.under p)) : l.disk.Passable q.place := by
  induction p using Path.child_induction with
  | root => exact h.way (by simpa using hq)
  | child p n ih =>
    by_cases heq : q = base.under (p.child n)
    · obtain ⟨e, he, stands, -⟩ := h.stands hp
      exact heq ▸ ⟨e, he, stands.content, stands.usable rfl .execute⟩
    · refine ih (h.closed p n (by simp [hp])) (Path.contains_of_parent? hq (Ne.symm heq) ?_)
      rw [Path.under_child, Path.parent?_child]

theorem absent (h : Shows base owners T l) (hp : T p = none) :
    l.disk.entry? (base.under p).place = none := by
  rw [Path.place_under]
  cases hentry : l.disk.entry? (base.place ++ p.place) with
  | none => rfl
  | some e =>
    obtain ⟨q, hq, hplace⟩ := h.only p.place (by simp [hentry])
    rw [Path.place_injective hplace] at hp
    exact absurd hp hq

theorem unlinked (h : Shows base owners T l) (p : Path) : l.disk.Unlinked (base.under p).place := by
  intro e he
  cases hkind : T p with
  | none =>
    rw [h.absent hkind] at he
    cases he
  | some kind =>
    obtain ⟨e', he', stands, -⟩ := h.stands hkind
    cases he'.symm.trans he
    exact stands.unlinked

/-- The way to what is in a directory of the tree. -/
theorem find_child (h : Shows base owners T l) (hp : T p = some .directory)
    (hfits : Fits base (p.child n)) (hgoal : goal ≠ .file) :
    l.disk.find goal (base.under (p.child n)).place = .ok (base.under (p.child n)).place := by
  have unlinked := h.unlinked (p.child n)
  rw [Fits, Path.under_child] at *
  exact Disk.find_child (h.passable hp) hgoal hfits unlinked

/-- The way to what is in the tree. -/
theorem find_under (h : Shows base owners T l) (hbase : base ≠ .root) (hp : T p ≠ none)
    (hfits : Fits base p) (hgoal : goal ≠ .file) :
    l.disk.find goal (base.under p).place = .ok (base.under p).place := by
  induction p using Path.child_induction with
  | root =>
    obtain ⟨above, n, rfl⟩ := Path.exists_child_of_ne_root hbase
    rw [Fits] at hfits
    rw [Path.under_root] at *
    exact Disk.find_child (fun hq => h.way (Path.contains_child hq n)) hgoal hfits
      (h.way (Path.contains_self _)).unlinked
  | child p n _ => exact h.find_child (h.closed p n hp) hfits hgoal

/-- There is no way to a name below a file of the tree. -/
theorem find_below_file (h : Shows base owners T l) (hp : T p = some .file)
    (hfits : Fits base (p.child n)) (hgoal : goal ≠ .file) :
    l.disk.find goal (base.under (p.child n)).place = .error .notDirectory := by
  obtain ⟨q, m, rfl⟩ : ∃ q m, p = Path.child q m := by
    refine Path.exists_child_of_ne_root ?_
    rintro rfl
    cases h.rooted.symm.trans hp
  obtain ⟨e, he, stands, -⟩ := h.stands hp
  rw [Fits, Path.under_child, Path.under_child] at *
  exact Disk.find_below_file (h.passable (h.closed q m (by simp [hp]))) hgoal he stands.content
    hfits

/-- A new object in a directory of the tree. -/
theorem put (h : Shows base owners T l) (hp : T p = some .directory) (hfree : T (p.child n) = none)
    (kind : Kind) :
    Shows base owners (T.put (p.child n) kind) { l with
      disk := l.disk.put (base.under (p.child n)).place (Disk.freshContent kind)
        (Disk.freshMode kind) } := by
  have new : (base.under (p.child n)).place ≠ [] := by
    rw [Path.under_child, Path.place_child]
    exact List.concat_ne_nil _ _
  have kept : ∀ {q kind'}, q ≠ p.child n → T q = some kind' →
      ∃ e, Disk.entry? (l.disk.put (base.under (p.child n)).place (Disk.freshContent kind)
        (Disk.freshMode kind)) (base.under q).place = some e ∧ e.Stands l.disk.userId kind' ∧
          owners (l.ownerOf e.owner) := by
    intro q kind' hne hq
    obtain ⟨e, he, stands, howner⟩ := h.stands hq
    have apart : (base.under q).place ≠ (base.under (p.child n)).place := by
      intro heq
      rw [Path.place_under, Path.place_under] at heq
      exact hne (Path.place_injective (List.append_cancel_left heq))
    rw [Disk.entry?_put_of_ne _ _ _ apart, he]
    split
    · exact ⟨_, rfl, stands.touched _, howner⟩
    · exact ⟨e, rfl, stands, howner⟩
  refine ⟨h.root, h.maker, fun hq => ?_, ?_, h.closed.put hp hfree kind, ?_, ?_⟩
  · refine Disk.Passable.put (h.way hq) (fun heq => ?_) _ _
    have hle := (Path.contains_iff.mp hq).length_le
    rw [Path.place_injective heq] at hle
    simp only [Path.under, Path.child, List.length_append, List.length_singleton] at hle
    omega
  · rw [Kinds.put_of_ne _ _ (by simp [Path.root, Path.child]), h.rooted]
  · intro q kind' hq
    by_cases heq : q = p.child n
    · subst heq
      rw [Kinds.put_self] at hq
      cases hq
      exact ⟨_, Disk.entry?_put_self _ new _ _, Disk.stands_fresh _ _, h.maker⟩
    · rw [Kinds.put_of_ne _ _ heq] at hq
      exact kept heq hq
  · intro place hplace
    by_cases heq : base.place ++ place = (base.under (p.child n)).place
    · rw [Path.place_under] at heq
      exact ⟨p.child n, by simp, List.append_cancel_left heq⟩
    · have old : l.disk.entry? (base.place ++ place) ≠ none := by
        rw [Disk.entry?_put_of_ne _ _ _ heq] at hplace
        intro hnone
        rw [hnone] at hplace
        split at hplace <;> exact hplace rfl
      obtain ⟨q, hq, rfl⟩ := h.only place old
      refine ⟨q, ?_, rfl⟩
      rw [Kinds.put_of_ne]
      · exact hq
      · rintro rfl
        exact hq hfree

/-- An object of the tree is found as it was made. -/
theorem stat_eq (h : Shows base owners T l) (hbase : base ≠ .root) (hp : T p = some kind)
    (hfits : Fits base p) :
    ∃ e, l.disk.stat (base.under p).place = .ok e ∧ e.Stands l.disk.userId kind ∧
      owners (l.ownerOf e.owner) := by
  obtain ⟨e, he, stands⟩ := h.stands hp
  refine ⟨e, ?_, stands⟩
  rw [Disk.stat, h.find_under hbase (by simp [hp]) hfits (by simp)]
  simp [bind, Except.bind, he]

/-- What is not there is missing in a directory; below a file there is no way to it. -/
theorem stat_missing (h : Shows base owners T l) (hp : T p = some kind)
    (hchild : T (p.child n) = none) (hfits : Fits base (p.child n)) :
    l.disk.stat (base.under (p.child n)).place =
      .error (if kind = .file then .notDirectory else .noEntry) := by
  rw [Disk.stat]
  cases kind with
  | file =>
    rw [h.find_below_file hp hfits (by simp)]
    rfl
  | directory =>
    rw [h.find_child hp hfits (by simp)]
    simp only [bind, Except.bind, h.absent hchild, reduceCtorEq, if_false]

end Shows

/-- The directory at `base`, which is not the root of the disk, is empty.  The user who asks has all
rights on it, and the way to it leads through directories. -/
structure Vacant (base : Path) (l : Local) : Prop where
  root : l.root = base.place
  inside : base ≠ .root
  reads : Fits base .root
  way : ∀ {q : Path}, q.contains base → l.disk.Passable q.place
  usable : ∃ e, l.disk.entry? base.place = some e ∧ e.Stands l.disk.userId .directory
  empty : ∀ {place}, place ≠ [] → l.disk.entry? (base.place ++ place) = none

/-- Who may own what is in the directory at `base`, once it was empty: the user who asks, or who owns
the directory. -/
inductive Holder (base : Path) (l : Local) : Owner → Prop
  | maker : Holder base l (l.ownerOf l.disk.userId)
  | directory {e : Disk.Entry} (h : l.disk.entry? base.place = some e) :
      Holder base l (l.ownerOf e.owner)

/-- An empty directory shows its root. -/
theorem Vacant.shows (h : Vacant base l) : Shows base (Holder base l) Kinds.bare l where
  root := h.root
  maker := .maker
  way := h.way
  rooted := rfl
  closed := Kinds.bare_closed
  stands := by
    intro p kind hp
    by_cases hroot : p = .root
    · subst hroot
      cases hp
      obtain ⟨e, he, stands⟩ := h.usable
      exact ⟨e, by rwa [Path.under_root], stands, .directory he⟩
    · simp [Kinds.bare, hroot] at hp
  only := by
    intro place hplace
    by_cases hnil : place = []
    · exact ⟨.root, by simp [Kinds.bare], hnil⟩
    · exact absurd (h.empty hnil) hplace

theorem make_eq (l : Local) (kind : Kind) (place : Disk.Place) :
    l.make kind place = (fun disk => ((), disk)) <$>
      l.disk.make place (Disk.freshContent kind) (Disk.freshMode kind) := by
  cases kind <;> simp only [Local.make, Disk.makeDirectory, Disk.makeFile, Disk.freshContent,
    Disk.freshMode, map_eq_pure_bind]

theorem kindOf_eq {e : Disk.Entry} {user : Nat} {kind : Kind} (h : e.Stands user kind) :
    kindOf e = kind := by
  rw [kindOf, h.content]
  cases kind <;> rfl

theorem sizeOf_eq {e : Disk.Entry} {user : Nat} {kind : Kind} (h : e.Stands user kind) :
    sizeOf e = 0 := by
  rw [sizeOf, h.content]
  cases kind <;> rfl

section Calls

variable {kind : Kind} (hs : l.sessions.isReleased s = false) (h : Shows base owners T l)
  (hbase : base ≠ .root)
include hs h hbase

theorem stat_shown (hp : T p = some kind) (hfits : Fits base p) :
    ∃ d, (backend.stat s p.toText).answer l = (.ok d, l) ∧
      d.kind = kind ∧ d.sizeBytes = 0 ∧ owners ⟨d.ownerName, d.ownerZone⟩ := by
  obtain ⟨e, he, stands, howner⟩ := h.stat_eq hbase hp hfits
  rw [show backend.stat s p.toText = reading s p.toText fun l place => l.describe p.toText place
    from rfl, answer_reading hs h.root (absurd · hbase), describe, he]
  exact ⟨_, rfl, kindOf_eq stands, sizeOf_eq stands, howner⟩

theorem stat_unshown (hp : T p = some kind) (hchild : T (p.child n) = none)
    (hfits : Fits base (p.child n)) :
    ∃ f, (backend.stat s (p.child n).toText).answer l = (.error f, l) ∧
      f.HasReason (if kind = .file then .io else .notFound) := by
  rw [show backend.stat s (p.child n).toText = reading s (p.child n).toText fun l place =>
    l.describe (p.child n).toText place from rfl, answer_reading hs h.root (absurd · hbase),
    describe, h.stat_missing hp hchild hfits]
  refine ⟨_, rfl, ?_⟩
  cases kind <;> exact hasReason_report _ _

/-- What the disk refuses to make is reported. -/
theorem create_refused {e : Errno} (kind : Kind) (hmake : l.disk.make (base.under p).place
      (Disk.freshContent kind) (Disk.freshMode kind) = .error e) :
    ∃ f, (backend.create s p.toText kind).answer l = (.error f, l) ∧ f.HasReason e.reason :=
  ⟨_, answer_within_error hs h.root (absurd · hbase) (by rw [make_eq, hmake]; rfl),
    hasReason_report _ _⟩

theorem create_occupied (hp : T p = some .directory) (hchild : T (p.child n) ≠ none)
    (hfits : Fits base (p.child n)) (kind : Kind) :
    ∃ f, (backend.create s (p.child n).toText kind).answer l = (.error f, l) ∧
      f.HasReason .alreadyExists := by
  obtain ⟨there, hthere⟩ := Option.ne_none_iff_exists'.mp hchild
  obtain ⟨e, he, -⟩ := h.stands hthere
  have found : l.disk.find .slot _ = .ok _ := h.find_child hp hfits (by simp)
  exact create_refused hs h hbase kind
    (Disk.make_exists found (Option.ne_none_iff_exists'.mpr ⟨e, he⟩))

theorem create_below_file (hp : T p = some .file) (hfits : Fits base (p.child n)) (kind : Kind) :
    ∃ f, (backend.create s (p.child n).toText kind).answer l = (.error f, l) ∧ f.HasReason .io := by
  have blocked : l.disk.make (base.under (p.child n)).place (Disk.freshContent kind)
      (Disk.freshMode kind) = .error .notDirectory := by
    rw [Disk.make, h.find_below_file hp hfits (by simp)]
    rfl
  exact create_refused hs h hbase kind blocked

theorem create_new (hp : T p = some .directory) (hfree : T (p.child n) = none)
    (hfits : Fits base (p.child n)) (kind : Kind) :
    ∃ l', (backend.create s (p.child n).toText kind).answer l = (.ok (), l') ∧
      l'.sessions.isReleased s = false ∧ Shows base owners (T.put (p.child n) kind) l' := by
  obtain ⟨e, he, stands, -⟩ := h.stands hp
  have found : l.disk.find .slot _ = .ok _ := h.find_child hp hfits (by simp)
  have named : (base.under (p.child n)).place.getLast? ≠ some "" := by
    rw [Path.under_child, Path.place_child, List.getLast?_concat]
    simpa using (Disk.name_ne n).1
  have writable : l.disk.allowsAt .write (base.under (p.child n)).place.dropLast := by
    rw [Path.under_child, Path.place_child, List.dropLast_concat]
    simpa [Disk.allowsAt, he] using stands.usable rfl .write
  have made : l.make kind (base.under (p.child n)).place = .ok ((), l.disk.put
      (base.under (p.child n)).place (Disk.freshContent kind) (Disk.freshMode kind)) := by
    rw [make_eq, Disk.make_new found (h.absent hfree) named writable]
    rfl
  exact ⟨_, answer_within hs h.root (absurd · hbase) made, hs, h.put hp hfree kind⟩

theorem listed (hp : T p = some .directory) (hfits : Fits base p) :
    ∃ texts, (backend.list s p.toText).answer l = (.ok texts, l) ∧
      ∀ text, text ∈ texts ↔ ∃ n, T (p.child n) ≠ none ∧ text = (p.child n).toText := by
  obtain ⟨e, he, stands, -⟩ := h.stands hp
  have found : l.disk.find .target _ = .ok _ := h.find_under hbase (by simp [hp]) hfits (by simp)
  rw [show backend.list s p.toText = reading s p.toText fun l place => l.children p.toText place
    from rfl, answer_reading hs h.root (absurd · hbase), children,
    Disk.names_eq found he stands.content (stands.usable rfl .read)]
  refine ⟨_, rfl, fun text => ?_⟩
  rw [List.mem_filterMap, Path.ofText_toText]
  constructor
  · rintro ⟨name, hname, htext⟩
    obtain ⟨n, hn, rfl⟩ := Option.map_eq_some_iff.mp htext
    obtain rfl : n.text = name := by
      cases hof : Name.ofText name with
      | error _ => simp [hof, Except.toOption] at hn
      | ok n' =>
        obtain rfl : n' = n := by simpa [hof, Except.toOption] using hn
        exact Name.text_of_ofText hof
    rw [Disk.mem_namesAt, Path.place_under, List.append_assoc, ← Path.place_child] at hname
    obtain ⟨q, hq, hplace⟩ := h.only _ hname
    exact ⟨n, Path.place_injective hplace ▸ hq, rfl⟩
  · rintro ⟨n, hn, rfl⟩
    refine ⟨n.text, ?_, by simp [Except.toOption]⟩
    obtain ⟨there, hthere⟩ := Option.ne_none_iff_exists'.mp hn
    obtain ⟨e', he', -⟩ := h.stands hthere
    rw [Disk.mem_namesAt, ← Path.place_child, ← Path.under_child]
    exact Option.ne_none_iff_exists'.mpr ⟨e', he'⟩

theorem unlisted_file (hp : T p = some .file) (hfits : Fits base p) :
    ∃ f, (backend.list s p.toText).answer l = (.error f, l) ∧ f.HasReason .io := by
  obtain ⟨e, he, stands, -⟩ := h.stands hp
  have found : l.disk.find .target _ = .ok _ := h.find_under hbase (by simp [hp]) hfits (by simp)
  rw [show backend.list s p.toText = reading s p.toText fun l place => l.children p.toText place
    from rfl, answer_reading hs h.root (absurd · hbase), children,
    Disk.names_file found he stands.content]
  exact ⟨_, rfl, hasReason_report _ _⟩

theorem root_readable (hfits : Fits base .root) :
    (backend.permits s .read Path.root.toText).answer l = (.ok true, l) := by
  obtain ⟨e, he, stands, -⟩ := h.stat_eq hbase h.rooted hfits
  have granted : l.disk.access .read (base.under .root).place = .ok () := by
    rw [Disk.access, he]
    exact if_pos (stands.usable rfl .read)
  rw [show backend.permits s .read Path.root.toText = reading s Path.root.toText fun l place =>
    l.permits .read place from rfl, answer_reading hs h.root (absurd · hbase), permits, granted]
  rfl

end Calls

/-- A directory of the disk that is not the disk's root keeps a tree. -/
theorem keepsTree (hbase : base ≠ .root) (hfits : Fits base .root)
    (owners : Owner → Prop) : backend.KeepsTree (Shows base owners)
      (fun s T l => l.sessions.isReleased s = false ∧ Shows base owners T l) (Fits base) owners
      .io where
  openSession := by
    rintro T l h
    exact ⟨_, _, rfl, l.sessions.isReleased_acquire, h.withSessions _⟩
  release := by
    rintro s T l ⟨hs, h⟩
    rw [show backend.release s = Local.release s from rfl, Local.release, Call.answer_of, hs]
    exact h.withSessions _
  readable := by
    rintro s T l ⟨hs, h⟩
    exact root_readable hs h hbase hfits
  stat := by
    rintro s T l p kind ⟨hs, h⟩ hp hfits
    exact stat_shown hs h hbase hp hfits
  missing := by
    rintro s T l p n kind ⟨hs, h⟩ hp hchild hfits
    exact stat_unshown hs h hbase hp hchild hfits
  occupied := by
    rintro s T l p n there kind ⟨hs, h⟩ hp hchild hfits
    exact create_occupied hs h hbase hp (by simp [hchild]) hfits kind
  parentless := by
    rintro s T l p n kind ⟨hs, h⟩ hp - hfits
    exact create_below_file hs h hbase hp hfits kind
  create := by
    rintro s T l p n kind ⟨hs, h⟩ hp hfree hfits
    exact create_new hs h hbase hp hfree hfits kind
  list := by
    rintro s T l p ⟨hs, h⟩ hp hfits
    exact listed hs h hbase hp hfits
  unlisted := by
    rintro s T l p ⟨hs, h⟩ hp hfits
    exact unlisted_file hs h hbase hp hfits

end Local

end InodeGateway
