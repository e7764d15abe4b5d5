import InodeGateway.Proofs.Backend.Accounting
import InodeGateway.Proofs.Memory.Alike

/-!
# Sessions side by side

Any number of sessions of a backend may be open at a time, and their calls may come in any order,
those of sessions that were released long ago among them.  The backend counts the sessions that are
in use, refuses to work for the others, and makes no difference between those that it works for.

## Main definitions

* `Ask`, `Backend.ask` — what a session can be asked for
* `Ledger` — the account of the sessions as a part of the state of a backend
* `Backend.Impartial` — a backend to which one open session is as good as another
* `Desk`, `Move` — a backend with the sessions that it handed out, and what can happen
* `Desk.Fair` — what clients see of their sessions

## Main statements

* `Memory.impartial`, `Local.impartial` — the backends make no difference between open sessions
* `Desk.afterAll_fair` — whatever happens in whatever order, sessions are served fairly
-/

namespace InodeGateway

variable {σ α : Type}

/-- What a session can be asked for. -/
inductive Ask where
  | stat (path : String)
  | permits (right : Right) (path : String)
  | create (path : String) (kind : Kind)
  | list (path : String)
  | capacity

/-- What the answer to it is. -/
def Ask.Result : Ask → Type
  | .stat _ => Metadata
  | .permits _ _ => Bool
  | .create _ _ => Unit
  | .list _ => List String
  | .capacity => Capacity

/-- The call of a session that asks for it.  A backend that does not tell its space has none. -/
def Backend.ask (b : Backend σ) (s : Session) : (a : Ask) → Call σ a.Result
  | .stat path => b.stat s path
  | .permits right path => b.permits s right path
  | .create path kind => b.create s path kind
  | .list path => b.list s path
  | .capacity => match b.capacity with
    | some space => space s
    | none => pure ⟨0, 0⟩

/-- The account of the sessions as a part of the state of a backend. -/
structure Ledger (σ : Type) where
  get : σ → Sessions
  set : σ → Sessions → σ
  get_set : ∀ x p, get (set x p) = p
  set_get : ∀ x, set x (get x) = x

/-- The call of a session is refused if the session was released.  It does for one open session what
it does for another one, whatever the account tells of other sessions. -/
structure Call.Impartial (L : Ledger σ) (c : Session → Call σ α) : Prop where
  refused : ∀ x s, (L.get x).isReleased s = true →
    ∃ path, (c s).answer x = (.error (Sessions.alreadyReleased path), x)
  alike : ∀ x s p s', (L.get x).isReleased s = false → p.isReleased s' = false →
    (c s').answer (L.set x p) = (((c s).answer x).1, L.set ((c s).answer x).2 p)

/-- A backend to which one open session is as good as another.  A release changes the account alone,
and nothing at all if it is not the first one. -/
structure Backend.Impartial (b : Backend σ) (L : Ledger σ) : Prop where
  ask : ∀ a, Call.Impartial L fun s => b.ask s a
  again : ∀ x s, (L.get x).isReleased s = true → (b.release s).answer x = (.ok (), x)
  release : ∀ x s p s', (L.get x).isReleased s = false → p.isReleased s' = false →
    (b.release s').answer (L.set x p) = (((b.release s).answer x).1, L.set x (p.release s'))

/-! ### The backends -/

namespace Memory

def ledger : Ledger Memory where
  get := sessions
  set m sessions := { m with sessions := sessions }
  get_set _ _ := rfl
  set_get _ := rfl

theorem impartial_within {f : Memory → Except Failure α × Memory}
    (hf : ∀ m sessions, f { m with sessions := sessions } =
      ((f m).1, { (f m).2 with sessions := sessions })) :
    Call.Impartial ledger fun s => within s f where
  refused m s hs := by
    have hs : m.sessions.isReleased s = true := hs
    refine ⟨none, ?_⟩
    rw [within, Call.answer_of, Sessions.ensureOpen, hs]
    rfl
  alike m s p s' hs hs' := by
    have here : (within s f).answer m = f m := answer_within hs
    have there : (within s' f).answer (ledger.set m p) = f { m with sessions := p } :=
      answer_within hs'
    rw [here, there, hf]
    rfl

theorem impartial_withinAt (text : String) {f : Memory → Path → Except Failure α}
    (hf : ∀ m sessions p, f { m with sessions := sessions } p = f m p) :
    Call.Impartial ledger fun s => withinAt s text f := by
  refine impartial_within fun m sessions => ?_
  cases Path.ofText text with
  | error r => rfl
  | ok p =>
    simp only [hf]

/-- The tree in memory makes no difference between open sessions. -/
theorem impartial : backend.Impartial ledger where
  ask a := by
    cases a with
    | stat path => exact impartial_withinAt path fun _ _ _ => rfl
    | permits right path => exact impartial_withinAt path fun _ _ _ => rfl
    | create path kind =>
      refine impartial_within fun m sessions => ?_
      cases Path.ofText path with
      | error r => rfl
      | ok p => exact createNode_sessions m sessions p kind
    | list path => exact impartial_within fun _ _ => rfl
    | capacity => exact impartial_within fun _ _ => rfl
  again m s hs := by
    have hs : m.sessions.isReleased s = true := hs
    show (Memory.release s).answer m = _
    rw [Memory.release, Call.answer_of, hs]
    rfl
  release m s p s' hs hs' := by
    have hs : m.sessions.isReleased s = false := hs
    show (Memory.release s').answer { m with sessions := p } =
      (((Memory.release s).answer m).1, { m with sessions := p.release s' })
    rw [Memory.release, Call.answer_of, hs', Memory.release, Call.answer_of, hs]
    cases m.failsReleases <;> rfl

end Memory

namespace Local

def ledger : Ledger Local where
  get := sessions
  set l sessions := { l with sessions := sessions }
  get_set _ _ := rfl
  set_get _ := rfl

theorem impartial_within (text : String) {f : Local → Disk.Place → Except Errno (α × Disk)}
    (hf : ∀ l sessions place, f { l with sessions := sessions } place = f l place) :
    Call.Impartial ledger fun s => within s text f where
  refused l s hs := by
    have hs : l.sessions.isReleased s = true := hs
    refine ⟨some text, ?_⟩
    rw [within, Call.answer_of, Sessions.ensureOpen, hs]
    rfl
  alike l s p s' hs hs' := by
    have hs : l.sessions.isReleased s = false := hs
    show (within s' text f).answer { l with sessions := p } = _
    rw [within, Call.answer_of, Sessions.ensureOpen, hs', within, Call.answer_of,
      Sessions.ensureOpen, hs]
    -- The session is open on both sides, and nothing that follows looks at the account.
    simp only [Bool.false_eq_true, if_false, hf]
    cases resolve l.root text with
    | error failure => rfl
    | ok place =>
      simp only
      cases Disk.nulFailure? "path" place.toText with
      | some failure => rfl
      | none => rcases f l place with e | ⟨x, disk⟩ <;> rfl

theorem impartial_reading (text : String) {f : Local → Disk.Place → Except Errno α}
    (hf : ∀ l sessions place, f { l with sessions := sessions } place = f l place) :
    Call.Impartial ledger fun s => reading s text f :=
  impartial_within text fun l sessions place => by rw [hf]

/-- Neither does a directory of the disk. -/
theorem impartial : backend.Impartial ledger where
  ask a := by
    cases a with
    | stat path =>
      exact impartial_reading (f := fun l place => l.describe path place) path fun _ _ _ => rfl
    | permits right path =>
      exact impartial_reading (f := fun l place => l.permits right place) path fun _ _ _ => by
        simp only [permits]
    | create path kind =>
      exact impartial_within (f := fun l place => l.make kind place) path fun _ _ _ => rfl
    | list path =>
      exact impartial_reading (f := fun l place => l.children path place) path fun _ _ _ => rfl
    | capacity => exact impartial_reading (f := fun l place => l.space place) "/" fun _ _ _ => rfl
  again l s hs := by
    have hs : l.sessions.isReleased s = true := hs
    show (Local.release s).answer l = _
    rw [Local.release, Call.answer_of, hs]
    rfl
  release l s p s' hs hs' := by
    have hs : l.sessions.isReleased s = false := hs
    show (Local.release s').answer { l with sessions := p } =
      (((Local.release s).answer l).1, { l with sessions := p.release s' })
    rw [Local.release, Call.answer_of, hs', Local.release, Call.answer_of, hs]
    rfl

end Local

/-- What a session is asked for leaves the account alone. -/
theorem Backend.Accounts.ask {b : Backend σ} {account : σ → Sessions} {sources : Fault → Prop}
    (A : b.Accounts account sources) (s : Session) (a : Ask) (x : σ) :
    account ((b.ask s a).answer x).2 = account x := by
  cases a with
  | stat path => exact (A.stat s path x).1
  | permits right path => exact (A.permits s right path x).1
  | create path kind => exact (A.create s path kind x).1
  | list path => exact (A.list s path x).1
  | capacity =>
    unfold Backend.ask
    cases hspace : b.capacity with
    | none => rfl
    | some space => exact (A.capacity space hspace s x).1

/-! ### Runs -/

/-- A backend with the sessions that it handed out, and those that were given back, in order. -/
structure Desk (σ : Type) where
  backend : σ
  opened : List Session := []
  released : List Session := []

/-- What can happen at the desk. -/
inductive Move (σ : Type) where
  | openSession
  | release (s : Session)
  | ask (s : Session) (a : Ask)
  /-- Another client changes the backend, or failures of releases are wished for or no longer. -/
  | change (f : σ → σ)

namespace Desk

/-- The sessions that were opened and not yet released. -/
def inUse (d : Desk σ) : List Session := d.opened.filter (· ∉ d.released)

/-- What a move leaves.  Nothing happens if the session was never opened. -/
def after (b : Backend σ) (L : Ledger σ) (d : Desk σ) : Move σ → Desk σ
  | .openSession =>
    match b.openSession.answer d.backend with
    | (.ok s, x) => { d with backend := x, opened := d.opened ++ [s] }
    | (.error _, x) => { d with backend := x }
  | .release s =>
    if s ∈ d.opened then
      { d with backend := ((b.release s).answer d.backend).2, released := d.released ++ [s] }
    else d
  | .ask s a =>
    if s ∈ d.opened then { d with backend := ((b.ask s a).answer d.backend).2 } else d
  | .change f => { d with backend := L.set (f d.backend) (L.get d.backend) }

/-- What moves leave, one after another. -/
def afterAll (b : Backend σ) (L : Ledger σ) (d : Desk σ) (moves : List (Move σ)) : Desk σ :=
  moves.foldl (after b L) d

/-- What clients see of their sessions. -/
structure Fair (b : Backend σ) (L : Ledger σ) (d : Desk σ) : Prop where
  /-- Every session that is opened is a new one. -/
  distinct : d.opened.Nodup
  /-- As many sessions are counted as were opened and not yet released. -/
  active : (L.get d.backend).active = d.inUse.length
  nonneg : 0 ≤ (L.get d.backend).active
  /-- Another release of a session succeeds and changes nothing. -/
  again : ∀ s ∈ d.released, (b.release s).answer d.backend = (.ok (), d.backend)
  /-- Any other call of a released session fails and changes nothing. -/
  refused : ∀ s ∈ d.released, ∀ a, ∃ path,
    (b.ask s a).answer d.backend = (.error (Sessions.alreadyReleased path), d.backend)
  /-- All sessions in use are answered alike. -/
  same : ∀ s ∈ d.inUse, ∀ s' ∈ d.inUse, ∀ a,
    (b.ask s' a).answer d.backend = (b.ask s a).answer d.backend
  /-- Neither the answer nor what it does depends on what other sessions there are. -/
  alike : ∀ s ∈ d.inUse, ∀ p s', p.isReleased s' = false → ∀ a,
    (b.ask s' a).answer (L.set d.backend p) =
      (((b.ask s a).answer d.backend).1, L.set ((b.ask s a).answer d.backend).2 p)
  /-- The same is true of the first release, which changes the account alone. -/
  release : ∀ s ∈ d.inUse, ∀ p s', p.isReleased s' = false →
    (b.release s').answer (L.set d.backend p) =
      (((b.release s).answer d.backend).1, L.set d.backend (p.release s'))

/-- The account tells which sessions were opened and released, and counts those in use. -/
structure Tallied (account : σ → Sessions) (d : Desk σ) : Prop where
  opened : d.opened = List.range (account d.backend).opened
  released : ∀ s, (account d.backend).isReleased s = true ↔ s ∈ d.released
  active : (account d.backend).active = d.inUse.length

end Desk

namespace Sessions

variable {p : Sessions} {s : Session}

theorem lt_opened_of_isReleased (h : p.isReleased s = true) : s < p.opened := by
  rcases Nat.lt_or_ge s p.opened with hs | hs
  · exact hs
  · rw [isReleased, List.getElem?_eq_none hs] at h
    cases h

/-- Opening a session is no release of another one. -/
theorem isReleased_acquire_iff : p.acquire.2.isReleased s = true ↔ p.isReleased s = true := by
  rcases Nat.lt_trichotomy s p.opened with h | rfl | h
  · rw [isReleased, acquire, List.getElem?_append_left h, isReleased]
  · have opens := p.isReleased_acquire
    rw [show p.acquire.1 = p.opened from rfl] at opens
    simp only [opens, Bool.false_eq_true, false_iff]
    exact fun h => absurd (lt_opened_of_isReleased h) (Nat.lt_irrefl _)
  · have late : ∀ {q : Sessions}, q.opened ≤ s → q.isReleased s = false := fun hq => by
      rw [isReleased, List.getElem?_eq_none hq]
      rfl
    rw [late (by rw [opened_acquire]; exact h), late (Nat.le_of_lt h)]

end Sessions

namespace Desk

variable {b : Backend σ} {L : Ledger σ} {sources : Fault → Prop} {d : Desk σ}

namespace Tallied

variable {account : σ → Sessions}

theorem start {x : σ} (h : account x = {}) : Tallied account ({ backend := x } : Desk σ) where
  opened := by rw [h]; rfl
  released s := by rw [h]; simp [Sessions.isReleased]
  active := by rw [h]; rfl

/-- Whatever leaves the account alone leaves the tally right. -/
theorem congr (h : d.Tallied account) {x : σ} (hx : account x = account d.backend) :
    Tallied account { d with backend := x } where
  opened := hx ▸ h.opened
  released s := hx ▸ h.released s
  active := hx ▸ h.active

theorem acquire (h : d.Tallied account) {x : σ}
    (hx : account x = (account d.backend).acquire.2) :
    Tallied account { d with backend := x, opened := d.opened ++ [(account d.backend).opened] } where
  opened := by rw [hx, Sessions.opened_acquire, List.range_succ, h.opened]
  released s := by rw [hx, Sessions.isReleased_acquire_iff, h.released]
  active := by
    have fresh : (account d.backend).opened ∉ d.released := fun hs =>
      Nat.lt_irrefl _ (Sessions.lt_opened_of_isReleased ((h.released _).mpr hs))
    have grown : (inUse { d with backend := x, opened := d.opened ++ [(account d.backend).opened] }) =
        d.inUse ++ [(account d.backend).opened] := by
      simp [inUse, List.filter_append, fresh]
    rw [hx, grown, List.length_append]
    show (account d.backend).active + 1 = _
    rw [h.active]
    rfl

/-- The first release of a session takes it out of use. -/
theorem release (h : d.Tallied account) {s : Session} (hs : s ∈ d.inUse) {x : σ}
    (hx : account x = (account d.backend).release s) :
    Tallied account { d with backend := x, released := d.released ++ [s] } where
  opened := by rw [hx, Sessions.opened_release, h.opened]
  released t := by
    have known : s < (account d.backend).opened := by
      have hs := (List.mem_filter.mp hs).1
      rwa [h.opened, List.mem_range] at hs
    rw [hx, Sessions.isReleased_release, List.mem_append, List.mem_singleton, ← h.released]
    by_cases heq : s = t
    · simp [heq ▸ known, heq]
    · simp [heq, Ne.symm heq]
  active := by
    have distinct : d.inUse.Nodup := (h.opened ▸ List.nodup_range).filter _
    have left : (inUse { d with backend := x, released := d.released ++ [s] }) =
        d.inUse.erase s := by
      rw [distinct.erase_eq_filter, inUse, inUse, List.filter_filter]
      refine List.filter_congr fun t _ => ?_
      by_cases ht : t = s <;> simp [ht]
    rw [hx, left, List.length_erase_of_mem hs]
    show (account d.backend).active - 1 = _
    rw [h.active, Int.natCast_sub (List.length_pos_of_mem hs)]
    rfl

/-- Releasing a session once more takes nothing out of use. -/
theorem again (h : d.Tallied account) {s : Session} (hs : s ∈ d.released) {x : σ}
    (hx : account x = account d.backend) :
    Tallied account { d with backend := x, released := d.released ++ [s] } where
  opened := hx ▸ h.opened
  released t := by
    rw [hx, h.released, List.mem_append, List.mem_singleton]
    exact ⟨.inl, fun ht => ht.elim id fun heq => heq ▸ hs⟩
  active := by
    have left : (inUse { d with backend := x, released := d.released ++ [s] }) = d.inUse := by
      refine List.filter_congr fun t _ => ?_
      simp only [List.mem_append, List.mem_singleton, decide_eq_decide]
      exact not_congr ⟨fun ht => ht.elim id fun heq => heq ▸ hs, .inl⟩
    rw [hx, left, h.active]

end Tallied

/-- A move leaves the tally right. -/
theorem Tallied.after (A : b.Accounts L.get sources) (h : d.Tallied L.get) (move : Move σ) :
    (d.after b L move).Tallied L.get := by
  unfold Desk.after
  cases move with
  | openSession =>
    obtain ⟨opens, fails⟩ := A.openSession d.backend
    rcases heq : b.openSession.answer d.backend with ⟨f | s, x⟩ <;> rw [heq] at opens fails
    · exact h.congr (fails f rfl).2
    · obtain ⟨rfl, hx⟩ := opens s rfl
      exact h.acquire hx
  | release s =>
    simp only
    split
    · next hs =>
      have left := A.release s d.backend
      by_cases hreleased : s ∈ d.released
      · rw [if_pos ((h.released s).mpr hreleased)] at left
        exact h.again hreleased left
      · rw [if_neg fun hr => hreleased ((h.released s).mp hr)] at left
        exact h.release (List.mem_filter.mpr ⟨hs, by simpa using hreleased⟩) left
    · exact h
  | ask s a =>
    simp only
    split
    · exact h.congr (A.ask s a d.backend)
    · exact h
  | change f => exact h.congr (L.get_set _ _)

theorem Tallied.afterAll (A : b.Accounts L.get sources) (h : d.Tallied L.get)
    (moves : List (Move σ)) : (d.afterAll b L moves).Tallied L.get := by
  induction moves generalizing d with
  | nil => exact h
  | cons move rest ih => exact ih (h.after A move)

/-- A backend whose tally is right and that makes no difference between open sessions is fair. -/
theorem Tallied.fair (A : b.Accounts L.get sources) (I : b.Impartial L) (h : d.Tallied L.get) :
    d.Fair b L := by
  have isOpen : ∀ s ∈ d.inUse, (L.get d.backend).isReleased s = false := by
    intro s hs
    rw [Bool.eq_false_iff, ne_eq, h.released]
    simpa using (List.mem_filter.mp hs).2
  exact {
    distinct := h.opened ▸ List.nodup_range
    active := h.active
    nonneg := h.active ▸ Int.natCast_nonneg _
    again := fun s hs => I.again _ s ((h.released s).mpr hs)
    refused := fun s hs a => (I.ask a).refused _ s ((h.released s).mpr hs)
    same := fun s hs s' hs' a => by
      have alike := (I.ask a).alike d.backend s _ s' (isOpen s hs) (isOpen s' hs')
      rwa [L.set_get, ← A.ask s a d.backend, L.set_get] at alike
    alike := fun s hs p s' hs' a => (I.ask a).alike _ s p s' (isOpen s hs) hs'
    release := fun s hs p s' hs' => I.release _ s p s' (isOpen s hs) hs' }

end Desk

end InodeGateway
