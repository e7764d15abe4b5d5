import InodeGateway.Proofs.Arguments
import InodeGateway.Proofs.Disk.Contents
import InodeGateway.Proofs.Disk.Links
import InodeGateway.Proofs.Local.Keeping

/-!
# What a served directory gives away

A directory of the disk is served as if it were all there is.  The check of its paths looks at their
written forms alone; links are followed by the file system afterwards.  So what is served lies below
the directory as long as the links in it lead to places below it, and a link that leads out is
followed.

## Main definitions

* `Local.Reaches` — the place on the disk that a path of the backend leads to
* `Local.Confined` — all that sessions are served lies below a place

## Main statements

* `Local.confined_of_encloses` — where the links in the directory lead to places in it, all that is
  served stands in it
* `Local.linked_leads_out` — a link to the directory above gives away what is there
-/

namespace InodeGateway

namespace Local

variable {α : Type} {l l' : Local} {s : Session} {text : String} {R : Disk.Place}

/-- The place on the disk that a path of the backend leads to. -/
def Reaches (l : Local) (goal : Disk.Goal) (text : String) (q : Disk.Place) : Prop :=
  ∃ p, Path.ofText text = .ok p ∧ l.disk.find goal (l.root ++ p.place) = .ok q

/-- All that sessions are served lies at `R` or below. -/
structure Confined (R : Disk.Place) (l : Local) : Prop where
  /-- What is described stands there. -/
  stat : ∀ s text m l', (backend.stat s text).answer l = (.ok m, l') →
    ∃ q e, l.Reaches .target text q ∧ R <+: q ∧ l.disk.entry? q = some e ∧
      m.kind = kindOf e ∧ m.sizeBytes = sizeOf e ∧ m.modifiedAt = e.modifiedAt ∧
      m.ownerName = toString e.owner
  /-- Rights are granted on what stands there. -/
  permits : ∀ s right text l', (backend.permits s right text).answer l = (.ok true, l') →
    ∃ q e, l.Reaches .target text q ∧ R <+: q ∧ l.disk.entry? q = some e ∧
      e.allows l.disk.userId right
  /-- The names that are told are those in a directory there. -/
  list : ∀ s text texts l', (backend.list s text).answer l = (.ok texts, l') →
    ∃ p q, Path.ofText text = .ok p ∧ l.Reaches .target text q ∧ R <+: q ∧
      texts = (l.disk.namesAt q).filterMap fun name =>
        (Name.ofText name).toOption.map fun n => (p.child n).toText
  /-- A new object is put there. -/
  create : ∀ s text kind l', (backend.create s text kind).answer l = (.ok (), l') →
    ∃ q, l.Reaches .slot text q ∧ R <+: q ∧ l.disk.entry? q = none ∧
      l' = { l with disk := l.disk.put q (Disk.freshContent kind) (Disk.freshMode kind) }
  /-- If none is made, nothing changes. -/
  refused : ∀ s text kind f l', (backend.create s text kind).answer l = (.error f, l') → l' = l

/-! ### Calls that succeed -/

/-- The guard lets a path pass whose place is made of the names of the directory and its own. -/
theorem resolve_ok {root place : Disk.Place} (h : resolve root text = .ok place) :
    ∃ p, Path.ofText text = .ok p ∧ place = root ++ p.place := by
  cases hp : Path.ofText text with
  | error r =>
    rw [resolve, hp] at h
    cases h
  | ok p =>
    rw [resolve_of_ofText root hp] at h
    split at h
    · cases h
    · exact ⟨p, rfl, (Except.ok.inj h).symm⟩

/-- A call that succeeds has asked the disk at the place of its path. -/
theorem within_ok {f : Local → Disk.Place → Except Errno (α × Disk)} {a : α}
    (h : (within s text f).answer l = (.ok a, l')) :
    ∃ p disk, Path.ofText text = .ok p ∧ f l (l.root ++ p.place) = .ok (a, disk) ∧
      l' = { l with disk := disk } := by
  rw [within, Call.answer_of] at h
  split at h
  · cases h
  · split at h
    · cases h
    · next place hplace =>
      obtain ⟨p, hp, rfl⟩ := resolve_ok hplace
      split at h
      · cases h
      · split at h
        · cases h
        · next a' disk hf =>
          cases h
          exact ⟨p, disk, hp, hf, rfl⟩

/-- A call that fails leaves everything as it was. -/
theorem within_error {f : Local → Disk.Place → Except Errno (α × Disk)} {failure : Failure}
    (h : (within s text f).answer l = (.error failure, l')) : l' = l := by
  rw [within, Call.answer_of] at h
  split at h
  · cases h
    rfl
  · split at h
    · cases h
      rfl
    · split at h
      · cases h
        rfl
      · split at h
        · cases h
          rfl
        · cases h

theorem reading_ok {f : Local → Disk.Place → Except Errno α} {a : α}
    (h : (reading s text f).answer l = (.ok a, l')) :
    ∃ p, Path.ofText text = .ok p ∧ f l (l.root ++ p.place) = .ok a := by
  obtain ⟨p, disk, hp, hf, -⟩ := within_ok h
  obtain ⟨b, hb, heq⟩ := ok_of_bind hf
  cases heq
  exact ⟨p, hp, hb⟩

theorem permits_ok {right : Right} {place : Disk.Place} (h : l.permits right place = .ok true) :
    ∃ q e, l.disk.find .target place = .ok q ∧ l.disk.entry? q = some e ∧
      e.allows l.disk.userId right := by
  rcases haccess : l.disk.access right place with e | ⟨⟩
  · rw [permits, haccess] at h
    cases e <;> cases h
  · obtain ⟨e, he, h⟩ := ok_of_bind haccess
    obtain ⟨q, hq, hentry⟩ := Disk.stat_ok he
    refine ⟨q, e, hq, hentry, ?_⟩
    cases hallows : e.allows l.disk.userId right with
    | true => rfl
    | false =>
      rw [hallows] at h
      cases h

theorem make_ok {kind : Kind} {place : Disk.Place} {disk : Disk}
    (h : l.make kind place = .ok ((), disk)) :
    ∃ q, l.disk.find .slot place = .ok q ∧ l.disk.entry? q = none ∧
      disk = l.disk.put q (Disk.freshContent kind) (Disk.freshMode kind) := by
  apply Disk.make_ok
  cases kind with
  | file =>
    obtain ⟨d, hd, h⟩ := ok_of_bind h
    cases h
    exact hd
  | directory =>
    obtain ⟨d, hd, h⟩ := ok_of_bind h
    cases h
    exact hd

/-! ### Containment -/

/-- A place that is named in writing is made of names. -/
theorem empty_not_mem_absolute (working : Path) (directory : String) :
    "" ∉ absolute working.place directory :=
  fun h => (named_absolute working directory "" h).1.1 rfl

/-- Where the links in the directory lead to places in it, sessions are served what stands in it,
whatever path is asked for. -/
theorem confined_of_encloses {working : Path} {directory : String}
    (hroot : l.root = absolute working.place directory)
    (hreal : l.disk.find .target l.root = .ok R) (encloses : l.disk.Encloses R) : l.Confined R := by
  have hempty : "" ∉ l.root := hroot ▸ empty_not_mem_absolute working directory
  have within : ∀ {p : Path} {goal q}, l.disk.find goal (l.root ++ p.place) = .ok q →
      goal = .target ∨ goal = .slot ∧ l.disk.entry? q = none → R <+: q := by
    intro p goal q h hgoal
    refine Disk.find_within encloses hreal hempty (fun name hname => ?_) h hgoal
    obtain ⟨n, -, rfl⟩ := List.mem_map.mp hname
    exact Disk.name_ne n
  refine ⟨fun s text m l' h => ?_, fun s right text l' h => ?_, fun s text texts l' h => ?_,
    fun s text kind l' h => ?_, fun s text kind f l' h => within_error h⟩
  · obtain ⟨p, hp, h⟩ := reading_ok (f := fun l place => l.describe text place) h
    obtain ⟨e, he, h⟩ := ok_of_bind h
    obtain ⟨q, hq, hentry⟩ := Disk.stat_ok he
    cases h
    exact ⟨q, e, ⟨p, hp, hq⟩, within hq (.inl rfl), hentry, rfl, rfl, rfl, rfl⟩
  · obtain ⟨p, hp, h⟩ := reading_ok (f := fun l place => l.permits right place) h
    obtain ⟨q, e, hq, hentry, hallows⟩ := permits_ok h
    exact ⟨q, e, ⟨p, hp, hq⟩, within hq (.inl rfl), hentry, hallows⟩
  · obtain ⟨p, hp, h⟩ := reading_ok (f := fun l place => l.children text place) h
    obtain ⟨told, htold, h⟩ := ok_of_bind h
    obtain ⟨q, hq, rfl⟩ := Disk.names_ok htold
    refine ⟨p, q, hp, ⟨p, hp, hq⟩, within hq (.inl rfl), ?_⟩
    rw [← Except.ok.inj h, hp]
    rfl
  · obtain ⟨p, disk, hp, hmade, rfl⟩ := within_ok (f := fun l place => l.make kind place) h
    obtain ⟨q, hq, hentry, rfl⟩ := make_ok hmade
    exact ⟨q, ⟨p, hp, hq⟩, within hq (.inr ⟨rfl, hentry⟩), hentry, rfl⟩

section Linked

def data : Path := ⟨[⟨"data", by decide⟩]⟩

/-- The link, as a path of the backend. -/
def out : Path := ⟨[⟨"out", by decide⟩]⟩

/-- An object of the user 7. -/
def object (content : Disk.Content) (mode : Nat) : Disk.Entry :=
  ⟨content, mode, 7, .at 0, .at 0, .at 0⟩

def emptyDirectory : Disk.Entry := object .directory Disk.directoryMode

/-- A disk with a file and a directory that is served; the directory has a link in it. -/
def linked (target : String) : Local where
  root := data.place
  zone := "grid"
  disk := {
    entries := ⟨[([], emptyDirectory), (["key"], object (.file 3) Disk.fileMode),
      (["data"], emptyDirectory), (["data", "out"], object (.link target) 0o777)]⟩
    userId := 7
    now := .at 0
    space := ⟨1024, 512⟩ }

theorem linked_root (target : String) :
    (linked target).root = absolute Path.root.place "/data" := by
  show data.place = _
  decide +kernel

theorem linked_real (target : String) :
    (linked target).disk.find .target (linked target).root = .ok ["data"] := by
  show (linked target).disk.find .target data.place = _
  rw [Disk.find_eq ⟨by decide +kernel, by decide +kernel, by decide +kernel⟩,
    Disk.place_eq_ok_iff]
  have look : (linked target).disk.Looks .target [] "data" [] :=
    ⟨⟨_, rfl, rfl, Disk.Entry.allows_own rfl _⟩, ⟨by decide, by decide, by decide⟩,
      by decide +kernel, nofun⟩
  exact .enter look Disk.not_isSlot_target rfl nofun .done

/-- A link to the directory that it stands in does not lead out of it. -/
theorem linked_encloses : (linked ".").disk.Encloses ["data"] := by
  intro here name e target _ hentry hlink budget q h
  have stands : (here ++ [name], e) ∈ (linked ".").disk.entries.entries :=
    OrderedMap.mem_of_get? hentry
  obtain ⟨rfl, rfl⟩ : here = ["data"] ∧ target = "." := by
    rcases (by simpa [linked] using stands : _ ∨ _ ∨ _) with
      ⟨-, rfl⟩ | ⟨-, rfl⟩ | ⟨hplace, rfl⟩
    · cases hlink
    · cases hlink
    · exact ⟨List.append_inj_left' hplace rfl, (Disk.Content.link.inj hlink).symm⟩
  have way : (linked ".").disk.Way .target budget ["data"] ["."] ["data"] :=
    .stay ⟨_, rfl, rfl, by decide⟩ .done
  rw [show Disk.components "." = ["."] by decide +kernel, show Disk.isAbsolute "." = false by
    decide +kernel] at h
  exact way.unique (Disk.way_of_place h) ▸ List.prefix_rfl

/-- Of a directory with such a link, everything that sessions are served stands in it. -/
theorem linked_confined :
    (linked ".").root = absolute Path.root.place "/data" ∧
      (linked ".").disk.find .target (linked ".").root = .ok ["data"] ∧
      (linked ".").disk.Encloses ["data"] ∧ (linked ".").Confined ["data"] :=
  ⟨linked_root ".", linked_real ".", linked_encloses,
    confined_of_encloses (linked_root ".") (linked_real ".") linked_encloses⟩

/-- A link to the directory above takes ways there. -/
theorem linked_find :
    (linked "..").disk.find .target ["data", "out", "key"] = .ok ["key"] ∧
      (linked "..").disk.find .target ["data", "out"] = .ok [] ∧
      (linked "..").disk.find .slot ["data", "out", "new"] = .ok ["new"] := by
  have kept : ∀ name ∈ ["data", "out", "key", "new"],
      Text.wellFormed name = name ∧ ¬ Disk.nameLimit < Text.byteSize name := by decide +kernel
  have short : ∀ path ∈ [["data", "out", "key"], ["data", "out"], ["data", "out", "new"]],
      ¬ Disk.pathLimit < Text.byteSize (Disk.Place.toText path) := by decide +kernel
  have up : Disk.components ".." = [".."] ∧ Disk.isAbsolute ".." = false := by decide +kernel
  have allows : emptyDirectory.allows 7 .execute = true := by decide
  have directory : emptyDirectory.content = .directory := rfl
  have holds : ∀ content mode, (object content mode).content = content := fun _ _ => rfl
  refine ⟨?_, ?_, ?_⟩ <;>
    simp [Disk.find, Disk.place, Disk.linkLimit, linked, Disk.entry?, OrderedMap.get?,
      OrderedMap.find, Disk.allowsAt, kept, short, up, allows, directory, holds]

/-- What is read through a session is what the disk tells at the place of the path. -/
theorem linked_answers {α : Type} (target : String) (p : Path)
    (f : Local → Disk.Place → Except Errno α) :
    (reading 0 p.toText f).answer (linked target) =
      ((f (linked target) (data.under p).place).mapError (report p.toText), linked target) :=
  answer_reading rfl rfl (absurd · (by decide)) f

theorem linked_describes :
    ∃ m, (backend.stat 0 "/out/key").answer (linked "..") = (.ok m, linked "..") ∧
      m.sizeBytes = 3 := by
  have written : (out.child ⟨"key", by decide⟩).toText = "/out/key" := by decide +kernel
  have answered := linked_answers ".." (out.child ⟨"key", by decide⟩)
    fun l place => l.describe "/out/key" place
  rw [written, describe, Disk.stat,
    show (data.under (out.child ⟨"key", by decide⟩)).place = ["data", "out", "key"] from rfl,
    linked_find.1] at answered
  exact ⟨_, answered, rfl⟩

theorem linked_lists :
    (backend.list 0 "/out").answer (linked "..") =
      (.ok ["/out/data", "/out/key"], linked "..") := by
  have written : out.toText = "/out" := by decide +kernel
  have told : (linked "..").disk.names ["data", "out"] = .ok ["data", "key"] := by
    rw [Disk.names_eq linked_find.2.1 rfl rfl (by decide)]
    simp [Disk.namesAt, linked, OrderedMap.keys, data, List.mergeSort]
  have paths : (linked "..").children "/out" (data.under out).place =
      .ok ["/out/data", "/out/key"] := by
    rw [children, show (data.under out).place = ["data", "out"] from rfl, told]
    exact congrArg Except.ok (by decide +kernel)
  have answered := linked_answers ".." out fun l place => l.children "/out" place
  rwa [paths, written] at answered

theorem linked_creates :
    (backend.create 0 "/out/new" .file).answer (linked "..") =
      (.ok (), { linked ".." with
        disk := (linked "..").disk.put ["new"] (.file 0) Disk.fileMode }) := by
  have written : (out.child ⟨"new", by decide⟩).toText = "/out/new" := by decide +kernel
  have made : (linked "..").make .file (data.under (out.child ⟨"new", by decide⟩)).place =
      .ok ((), (linked "..").disk.put ["new"] (.file 0) Disk.fileMode) := by
    rw [make, Disk.makeFile,
      show (data.under (out.child ⟨"new", by decide⟩)).place = ["data", "out", "new"] from rfl,
      Disk.make_new linked_find.2.2 (by decide +kernel) (by decide) (by decide +kernel)]
    rfl
  have isRoot : (linked "..").root = data.place := rfl
  have answered := answer_within (s := 0) rfl isRoot (by decide)
    (f := fun l place => l.make .file place) made
  rwa [written] at answered

/-- A link to the directory above leads out of it: what stands there is described, its names are
told, and a new object is put there. -/
theorem linked_leads_out :
    (linked "..").root = absolute Path.root.place "/data" ∧
      (linked "..").disk.find .target (linked "..").root = .ok ["data"] ∧
      (∃ m, (backend.stat 0 "/out/key").answer (linked "..") = (.ok m, linked "..") ∧
        m.sizeBytes = 3) ∧
      (backend.list 0 "/out").answer (linked "..") =
        (.ok ["/out/data", "/out/key"], linked "..") ∧
      (backend.create 0 "/out/new" .file).answer (linked "..") =
        (.ok (), { linked ".." with
          disk := (linked "..").disk.put ["new"] (.file 0) Disk.fileMode }) ∧
      ¬ (linked "..").Confined ["data"] := by
  refine ⟨linked_root "..", linked_real "..", linked_describes, linked_lists, linked_creates,
    fun confined => ?_⟩
  obtain ⟨-, q, -, ⟨p, hp, hq⟩, hwithin, -⟩ := confined.list _ _ _ _ linked_lists
  have written : out.toText = "/out" := by decide +kernel
  obtain rfl : out = p := by
    rw [← written, Path.ofText_toText] at hp
    exact Except.ok.inj hp
  obtain rfl : [] = q := Except.ok.inj (linked_find.2.1.symm.trans hq)
  exact absurd (List.prefix_nil.mp hwithin) (List.cons_ne_nil _ _)

end Linked

end Local

end InodeGateway
