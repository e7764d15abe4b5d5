import InodeGateway.Backend.Local
import InodeGateway.Backend.Memory
import InodeGateway.Proofs.Arguments
import InodeGateway.Proofs.Failure
import InodeGateway.Proofs.World.Triple

/-!
# Backends that keep account of their sessions

A backend counts the sessions that it hands out, and remembers which of them were released.  The
work in a session leaves that account alone, and a session that was not released is not told that
it was.

## Main definitions

* `Call.Accounted` — work in a session
* `Backend.Accounts` — a backend that keeps account of its sessions

## Main statements

* `Memory.accounts`, `Local.accounts` — the backends do
-/

namespace InodeGateway

variable {σ α β : Type}

/-- Work in the session `s`: it leaves the account alone, and as long as the session is not
released, no failure tells that it was, unless it comes from the sources. -/
def Call.Accounted (account : σ → Sessions) (sources : Fault → Prop) (s : Session) (c : Call σ α) :
    Prop :=
  ∀ b, account (c.answer b).2 = account b ∧
    ((account b).isReleased s = false → ∀ f, (c.answer b).1 = .error f → f.LateOnly sources)

/-- A backend that keeps account of its sessions. -/
structure Backend.Accounts (b : Backend σ) (account : σ → Sessions) (sources : Fault → Prop) :
    Prop where
  openSession : ∀ x, b.openSession.Leads x
    (fun s x' => s = (account x).opened ∧ account x' = (account x).acquire.2)
    fun f x' => f.LateOnly sources ∧ account x' = account x
  stat : ∀ s path, (b.stat s path).Accounted account sources s
  permits : ∀ s right path, (b.permits s right path).Accounted account sources s
  create : ∀ s path kind, (b.create s path kind).Accounted account sources s
  list : ∀ s path, (b.list s path).Accounted account sources s
  capacity : ∀ space, b.capacity = some space → ∀ s, (space s).Accounted account sources s
  /-- Only the first release of a session counts. -/
  release : ∀ s x, account ((b.release s).answer x).2 =
    if (account x).isReleased s then account x else (account x).release s

/-- An outcome that tells nothing of sessions. -/
def Timely (outcome : Except Failure α) : Prop :=
  ∀ f, outcome = .error f → f.LateOnly fun _ => False

namespace Timely

theorem ok (x : α) : Timely (.ok x) := nofun

theorem error {f : Failure} (h : f.LateOnly fun _ => False) :
    Timely (.error f : Except Failure α) := by
  intro f' heq
  cases heq
  exact h

theorem bind {first : Except Failure α} {next : α → Except Failure β} (hfirst : Timely first)
    (hnext : ∀ x, Timely (next x)) : Timely (first >>= next) := by
  intro f h
  rcases error_of_bind h with h | ⟨x, h⟩
  · exact hfirst f h
  · exact hnext x f h

/-- A refusal is in the gateway's terms. -/
theorem refused (outcome : Except Refusal α) : Timely (outcome.mapError Refusal.failure) := by
  cases outcome with
  | error r => exact error r.isOwn_failure.lateOnly
  | ok x => exact ok x

/-- A fault of the backend that says something else. -/
theorem backend {reason : Reason} {message : String} {path : Option String}
    (h : message ≠ "Session already released") :
    Timely (.error (.backend reason message path) : Except Failure α) :=
  error (Failure.lateOnly_single fun hlate => h hlate.2)

end Timely

namespace Memory

theorem timely_checkFailure (m : Memory) (p : Path) : Timely (m.checkFailure p) := by
  unfold checkFailure
  split
  · next reason _ => exact .backend (by cases reason <;> decide)
  · exact .ok ()

theorem timely_permissionsAt (m : Memory) (p : Path) : Timely (m.permissionsAt p) :=
  (m.timely_checkFailure p).bind fun _ => .ok _

theorem timely_node? (m : Memory) (p : Path) : Timely (m.node? p) := by
  refine (m.timely_checkFailure p).bind fun _ => ?_
  split
  · exact .ok _
  · exact .backend (by decide)

theorem timely_admits (m : Memory) (p : Path) : Timely (m.admits p) := by
  have writable : ∀ q, Timely (do
      if !(← m.permissionsAt q).write then
        throw (.backend .permissionDenied "No write permission on collection"
          (some q.toText))) := by
    intro q
    refine (m.timely_permissionsAt q).bind fun permissions => ?_
    split
    · exact .backend (by decide)
    · exact .ok ()
  refine (m.timely_checkFailure p).bind fun _ => ?_
  simp only
  split
  · exact .backend (by decide)
  · cases p.parent? with
    | none => exact .backend (by decide)
    | some q =>
      refine (m.timely_node? q).bind fun parent => ?_
      split
      · exact .bind (.backend (by decide)) fun _ => writable q
      · exact writable q

theorem timely_children (m : Memory) (text : String) : Timely (m.children text) := by
  refine (Timely.refused _).bind fun p => (m.timely_node? p).bind fun node => ?_
  simp only
  split
  · exact .bind (.backend (by decide)) fun _ => .ok _
  · exact .ok _

/-- A call of a session looks whether it was released, and then leaves the account alone. -/
theorem accounted_within (s : Session) {f : Memory → Except Failure α × Memory}
    (hsessions : ∀ m, (f m).2.sessions = m.sessions) (htimely : ∀ m, Timely (f m).1) :
    (within s f).Accounted sessions (fun _ => False) s := by
  intro m
  rw [within, Call.answer_of, Sessions.ensureOpen]
  cases m.sessions.isReleased s with
  | true => exact ⟨rfl, nofun⟩
  | false => exact ⟨hsessions m, fun _ => htimely m⟩

theorem accounted_withinAt (s : Session) (text : String)
    {f : Memory → Path → Except Failure α} (htimely : ∀ m p, Timely (f m p)) :
    (withinAt s text f).Accounted sessions (fun _ => False) s := by
  refine accounted_within s (fun m => ?_) fun m => ?_
  · cases Path.ofText text <;> rfl
  · cases Path.ofText text with
    | error r => exact Timely.refused (.error r)
    | ok p => exact htimely m p

theorem sessions_insert (m : Memory) (p : Path) (kind : Kind) (size : Num) (owner : Owner) :
    (m.insert p kind size owner).sessions = m.sessions := by
  unfold insert
  cases p.parent? <;> rfl

theorem sessions_createNode (m : Memory) (p : Path) (kind : Kind) :
    (m.createNode p kind).2.sessions = m.sessions := by
  unfold createNode
  cases m.admits p with
  | error f => rfl
  | ok _ => exact m.sessions_insert ..

theorem timely_createNode (m : Memory) (p : Path) (kind : Kind) :
    Timely (m.createNode p kind).1 := by
  have timely := m.timely_admits p
  unfold createNode
  generalize m.admits p = admitted at timely ⊢
  cases admitted with
  | error f => exact timely
  | ok _ => exact .ok ()

theorem accounted_create (s : Session) (path : String) (kind : Kind) :
    (backend.create s path kind).Accounted sessions (fun _ => False) s := by
  refine accounted_within s (fun m => ?_) fun m => ?_
  · cases Path.ofText path with
    | error r => rfl
    | ok p => exact m.sessions_createNode p kind
  · cases Path.ofText path with
    | error r => exact Timely.refused (.error r)
    | ok p => exact m.timely_createNode p kind

/-- A backend in memory keeps account of its sessions. -/
theorem accounts : backend.Accounts sessions fun _ => False where
  openSession m := ⟨fun s h => ⟨(Except.ok.inj h).symm, rfl⟩, nofun⟩
  stat s path := accounted_withinAt s path fun m p => (m.timely_node? p).bind fun _ => .ok _
  permits s right path := accounted_withinAt s path fun m p =>
    (m.timely_permissionsAt p).bind fun _ => .ok _
  create := accounted_create
  list s path := accounted_within s (fun _ => rfl) fun m => m.timely_children path
  capacity space hspace s := by
    obtain rfl := Option.some.inj hspace
    exact accounted_within s (fun _ => rfl) fun m => .ok _
  release s m := by
    show ((release s).answer m).2.sessions = _
    rw [release, Call.answer_of]
    cases m.sessions.isReleased s with
    | true => rfl
    | false => cases m.failsReleases <;> rfl

end Memory

namespace Local

theorem timely_resolve (root : Disk.Place) (text : String) : Timely (resolve root text) := by
  refine (Timely.refused _).bind fun p => ?_
  simp only
  split
  · exact .bind (.backend (by decide)) fun _ => .ok _
  · exact .ok _

/-- An error of the disk, whatever it is, tells nothing of sessions. -/
theorem lateOnly_report (text : String) (e : Errno) :
    (report text e).LateOnly fun _ => False := by
  refine (Failure.lateOnly_single (by simp [Fault.IsLate])).because ?_
  rintro ⟨-, h⟩
  cases e <;> exact absurd h (by decide)

/-- Neither does a path that holds a NUL. -/
theorem lateOnly_reportOther {text written : String} {f : Failure}
    (h : Disk.nulFailure? "path" written = some f) :
    (reportOther text f).LateOnly fun _ => False := by
  unfold Disk.nulFailure? at h
  split at h
  · obtain rfl := Option.some.inj h
    refine (Failure.lateOnly_single (by simp [Fault.IsLate])).because ?_
    rintro ⟨-, h⟩
    -- The two messages differ in their first character.
    have first := congrArg (fun message => message.toList.head?) h
    simp [Failure.message, Fault.message, String.toList_append] at first
  · cases h

/-- A call of a session looks whether it was released, and then leaves the account alone. -/
theorem accounted_within (s : Session) (text : String)
    (f : Local → Disk.Place → Except Errno (α × Disk)) :
    (within s text f).Accounted sessions (fun _ => False) s := by
  intro l
  rw [within, Call.answer_of, Sessions.ensureOpen]
  cases l.sessions.isReleased s with
  | true => exact ⟨rfl, nofun⟩
  | false =>
    have resolved := timely_resolve l.root text
    simp only [Bool.false_eq_true, if_false, true_implies]
    rcases hplace : resolve l.root text with e | place <;> rw [hplace] at resolved
    · exact ⟨rfl, fun f h => resolved f (congrArg Except.error (Except.error.inj h))⟩
    · simp only
      cases hnul : Disk.nulFailure? "path" place.toText with
      | some e => exact ⟨rfl, Timely.error (lateOnly_reportOther hnul)⟩
      | none =>
        rcases f l place with e | ⟨x, disk⟩
        · exact ⟨rfl, Timely.error (lateOnly_report text e)⟩
        · exact ⟨rfl, Timely.ok x⟩

theorem accounted_reading (s : Session) (text : String)
    (f : Local → Disk.Place → Except Errno α) :
    (reading s text f).Accounted sessions (fun _ => False) s :=
  accounted_within s text _

/-- A directory of the disk keeps account of its sessions. -/
theorem accounts : backend.Accounts sessions fun _ => False where
  openSession l := ⟨fun s h => ⟨(Except.ok.inj h).symm, rfl⟩, nofun⟩
  stat s path := accounted_reading s path fun l place => l.describe path place
  permits s right path := accounted_reading s path fun l place => l.permits right place
  create s path kind := accounted_within s path fun l place => l.make kind place
  list s path := accounted_reading s path fun l place => l.children path place
  capacity space hspace s := by
    obtain rfl := Option.some.inj hspace
    exact accounted_reading s "/" fun l place => l.space place
  release s l := by
    show ((release s).answer l).2.sessions = _
    rw [release, Call.answer_of]
    cases l.sessions.isReleased s <;> rfl

end Local

end InodeGateway
