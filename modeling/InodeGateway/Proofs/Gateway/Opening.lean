import InodeGateway.Backend.Injected
import InodeGateway.Proofs.Gateway.Exchanges
import InodeGateway.Proofs.Gateway.Run
import InodeGateway.Proofs.Gateway.Translation

/-!
# Opening a gateway

A gateway is open or it is not: the root is all that the table of an open one holds, and nothing is
registered otherwise.  Whatever speaks against it, the session that was opened for the looks at the
root is released.  Failures of these looks are restated in the gateway's terms.  That no session can
be opened is reported as the backend says it, unlike everywhere else.

## Main definitions

* `Gateway.Opening` — how opening goes over a backend in a given state
* `Gateway.Rejection` — why a gateway is not opened, and what is reported then
* `Exchange.Closed` — calls that leave no session open

## Main statements

* `Gateway.mount_opening` — opening goes that way
* `Gateway.establish_all_or_nothing` — when a gateway is opened, and what is reported otherwise
-/

namespace InodeGateway

variable {σ α β : Type}

/-- A call followed by another gives an answer if both do. -/
theorem Call.answer_bind_eq_ok {c : Call σ α} {f : α → Call σ β} {x y : σ} {v : β} :
    (c >>= f).answer x = (.ok v, y) ↔
      ∃ u z, c.answer x = (.ok u, z) ∧ (f u).answer z = (.ok v, y) := by
  rw [answer_bind]
  rcases c.answer x with ⟨e | u, z⟩
  · simp
  · refine ⟨fun h => ⟨u, z, rfl, h⟩, fun ⟨u', z', heq, h⟩ => ?_⟩
    cases heq
    exact h

/-- The looks at a root: it is described, and it is asked whether it can be read. -/
def Backend.lookAt (b : Backend σ) (s : Session) (p : Path) : Call σ Bool := do
  let _ ← b.stat s p.toText
  b.permits s .read p.toText

/-- The calls leave no session open: none was opened, or one that is released after all work in
it. -/
def Exchange.Closed (calls : List Exchange) : Prop :=
  (∀ e ∈ calls, e.isOpening = false) ∨
    ∃ s work thrown, calls = .opened s :: work ++ [.released s thrown] ∧ ∀ e ∈ work, e.Within s

namespace Gateway

/-- What is made of the looks at a root. -/
def verdict (p : Path) : Except Failure Bool → Except Failure Path
  | .ok true => .ok p
  | .ok false => .error (Refusal.rootUnavailable p.toText)
  | .error f =>
    if f.isMissing then .error (Refusal.rootUnavailable p.toText) else .error (restate f)

/-- How opening goes over a backend in the state `x`: the root or the failure, and the state that is
left. -/
inductive Opening (b : Backend σ) (root : String) (x : σ) : Except Failure Path → σ → Prop
  | refused {r : Refusal} (hroot : Path.ofText root = .error r) : Opening b root x (.error r) x
  | unopened {p : Path} {f : Failure} {y : σ} (hroot : Path.ofText root = .ok p)
      (hopen : b.openSession.answer x = (.error f, y)) : Opening b root x (.error f) y
  | looked {p : Path} {s : Session} {seen : Except Failure Bool} {y z : σ}
      (hroot : Path.ofText root = .ok p) (hopen : b.openSession.answer x = (.ok s, y))
      (hlook : (b.lookAt s p).answer y = (seen, z)) :
      Opening b root x (verdict p seen) ((b.release s).answer z).2

/-- Why a gateway is not opened over a backend in the state `x`, and the failure that is reported
then. -/
inductive Rejection (b : Backend σ) (root : String) (x : σ) : Failure → Prop
  | path {r : Refusal} (hroot : Path.ofText root = .error r) :
      Rejection b root x ⟨.gateway .invalidArgument r.message r.details, []⟩
  /-- The failure to open a session is reported as it is. -/
  | session {p : Path} {f : Failure} (hroot : Path.ofText root = .ok p)
      (hopen : (b.openSession.answer x).1 = .error f) : Rejection b root x f
  | missing {p : Path} {s : Session} {f : Failure} {y : σ} (hroot : Path.ofText root = .ok p)
      (hopen : b.openSession.answer x = (.ok s, y))
      (hlook : ((b.lookAt s p).answer y).1 = .error f) {message : String} {path : Option String}
      (hf : f.fault = .backend .notFound message path) : Rejection b root x
        ⟨.gateway .notFound ("Cannot establish root at " ++ p.toText)
          (some [("rootPath", p.toText)]), []⟩
  | unreadable {p : Path} {s : Session} {y : σ} (hroot : Path.ofText root = .ok p)
      (hopen : b.openSession.answer x = (.ok s, y))
      (hlook : ((b.lookAt s p).answer y).1 = .ok false) : Rejection b root x
        ⟨.gateway .notFound ("Cannot establish root at " ++ p.toText)
          (some [("rootPath", p.toText)]), []⟩
  /-- Other failures of the looks are reported in the gateway's terms. -/
  | look {p : Path} {s : Session} {f e : Failure} {y : σ} (hroot : Path.ofText root = .ok p)
      (hopen : b.openSession.answer x = (.ok s, y))
      (hlook : ((b.lookAt s p).answer y).1 = .error f)
      (hf : ∀ message path, f.fault ≠ .backend .notFound message path) (he : f.Translated e) :
      Rejection b root x e

/-- The table after opening. -/
def openedTable : Except Failure Path → Inodes
  | .ok p => .mounted p
  | .error _ => {}

/-- The calls that are made while a gateway is opened, oldest first. -/
def openingCalls (b : Backend σ) (identities : Identity.Registry σ)
    (permissions : PermissionModel) (root : String) (w : World σ) : List Exchange :=
  ((establish b.followed identities.followed permissions root).answer w.following).2.backend.2

variable {b : Backend σ} {root : String} {x : σ}

/-- The looks at the root, as the gateway makes something of them. -/
theorem answer_rootReadable (g : Gateway σ) (s : Session) (w : World σ) :
    (g.rootReadable s).answer w =
      (match ((g.backend.lookAt s g.rootPath).answer w.backend).1 with
        | .ok readable => .ok readable
        | .error f => if f.isMissing then .ok false else .error (restate f),
      { w with backend := ((g.backend.lookAt s g.rootPath).answer w.backend).2 }) := by
  simp only [rootReadable, Act.answer_explain, Act.orMissing, Call.answer_of, Call.answer_bind,
    Act.answer_call, Backend.lookAt]
  rcases (g.backend.stat s g.rootPath.toText).answer w.backend with ⟨f | m, y⟩
  · simp only
    split <;> rfl
  · simp only
    rcases (g.backend.permits s .read g.rootPath.toText).answer y with ⟨f | readable, z⟩
    · simp only
      split <;> rfl
    · rfl

/-- A root is mounted, or nothing is registered. -/
theorem mount_opening (b : Backend σ) (identities : Identity.Registry σ)
    (permissions : PermissionModel) (root : String) {w : World σ} (hempty : w.inodes = {}) :
    let outcome := (mount b identities permissions root).answer w
    Opening b root w.backend outcome.1 outcome.2.backend ∧
      outcome.2.inodes = openedTable outcome.1 := by
  obtain ⟨x, t, journal, observed⟩ := w
  obtain rfl : t = {} := hempty
  have mounts (p : Path) : ({} : Inodes).mountRoot p = (.ok (), .mounted p) := rfl
  have accepts {α : Type} (a : α) :
      (Except.ok a : Except Refusal α).mapError Refusal.failure = .ok a := rfl
  simp only [mount, Call.answer_bind, Act.check, Act.answer_result]
  cases hroot : Path.ofText root with
  | error r => exact ⟨.refused hroot, rfl⟩
  | ok p =>
    simp only [accepts, Act.answer_note, Act.answer_withSession, Act.answer_call,
      World.note]
    rcases hopen : b.openSession.answer x with ⟨f | s, y⟩
    · exact ⟨.unopened hroot hopen, rfl⟩
    · simp only [answer_rootReadable]
      rcases hlook : (b.lookAt s p).answer y with ⟨f | _ | _, z⟩ <;>
        have goes := Opening.looked hroot hopen hlook
      · cases hf : f.isMissing <;>
          exact ⟨by simpa [verdict, hf] using goes, by simp [openedTable, hf]⟩
      · exact ⟨by simpa [verdict] using goes, by simp [openedTable]⟩
      · exact ⟨by simpa [verdict, mounts, Call.answer_map, Except.map, accepts] using goes,
          by simp [openedTable, mounts, Call.answer_map, Except.map, accepts]⟩

theorem verdict_eq_ok_iff {p q : Path} {seen : Except Failure Bool} :
    verdict q seen = .ok p ↔ q = p ∧ seen = .ok true := by
  rcases seen with f | _ | _
  · simp only [verdict]
    split <;> simp
  · simp [verdict]
  · simp [verdict]

/-- A gateway is opened if its root is one, a session opens, and both looks at the root go well. -/
theorem Opening.ok_iff {outcome : Except Failure Path} {left : σ}
    (h : Opening b root x outcome left) (p : Path) :
    outcome = .ok p ↔ Path.ofText root = .ok p ∧ ∃ s y m z v,
      b.openSession.answer x = (.ok s, y) ∧ (b.stat s p.toText).answer y = (.ok m, z) ∧
        (b.permits s .read p.toText).answer z = (.ok true, v) := by
  cases h with
  | refused hroot => simp [hroot]
  | unopened hroot hopen => simp [hopen]
  | @looked q s seen y z hroot hopen hlook =>
    rw [verdict_eq_ok_iff, hroot, Except.ok.injEq]
    refine and_congr_right fun hq => ⟨fun hseen => ?_, fun ⟨s', y', m, z', v, hopen', seen⟩ => ?_⟩
    · subst hq hseen
      obtain ⟨m, z', hstat, hpermits⟩ := Call.answer_bind_eq_ok.mp hlook
      exact ⟨s, y, m, z', z, hopen, hstat, hpermits⟩
    · obtain ⟨hs, rfl⟩ := Prod.mk.inj (hopen.symm.trans hopen')
      obtain rfl := Except.ok.inj hs
      subst hq
      have hlook' : (b.lookAt s q).answer y = (.ok true, v) :=
        Call.answer_bind_eq_ok.mpr ⟨m, z', seen⟩
      exact congrArg Prod.fst (hlook.symm.trans hlook')

/-- Where both looks at the root go well, a gateway is opened. -/
theorem establish_of_looks {identities : Identity.Registry σ} {permissions : PermissionModel}
    {w : World σ} (hempty : w.inodes = {}) {p : Path} (hroot : Path.ofText root = .ok p)
    {s : Session} {m : Metadata} {y z v : σ}
    (hopen : b.openSession.answer w.backend = (.ok s, y))
    (hstat : (b.stat s p.toText).answer y = (.ok m, z))
    (hpermits : (b.permits s .read p.toText).answer z = (.ok true, v)) :
    ∃ w', (establish b identities permissions root).answer w =
      (.ok ⟨b, identities, permissions, p⟩, w') := by
  have goes := (mount_opening b identities permissions root hempty).1
  have mounted := (goes.ok_iff p).mpr ⟨hroot, s, y, m, z, v, hopen, hstat, hpermits⟩
  refine ⟨((mount b identities permissions root).answer w).2, ?_⟩
  rw [establish_eq_map, Call.answer_map, mounted]
  rfl

/-- What an opening that goes well leaves: the root was looked at, and the session released. -/
theorem Opening.looked_at {p : Path} {left : σ} (h : Opening b root x (.ok p) left) :
    ∃ s y m z v, (b.stat s p.toText).answer y = (.ok m, z) ∧
      (b.permits s .read p.toText).answer z = (.ok true, v) ∧
      left = ((b.release s).answer v).2 := by
  generalize houtcome : (Except.ok p : Except Failure Path) = outcome at h
  cases h with
  | refused => cases houtcome
  | unopened => cases houtcome
  | @looked q s seen y z hroot hopen hlook =>
    obtain ⟨rfl, rfl⟩ := verdict_eq_ok_iff.mp houtcome.symm
    obtain ⟨m, z', hstat, hpermits⟩ := Call.answer_bind_eq_ok.mp hlook
    exact ⟨s, y, m, z', z, hstat, hpermits, rfl⟩

theorem Opening.rejection {f : Failure} {left : σ} (h : Opening b root x (.error f) left) :
    Rejection b root x f := by
  generalize houtcome : (Except.error f : Except Failure Path) = outcome at h
  cases h with
  | @refused r hroot =>
    have failure : r.failure = ⟨.gateway .invalidArgument r.message r.details, []⟩ := by
      rw [Refusal.failure, Path.code_of_ofText hroot]
    rw [Except.error.inj houtcome, failure]
    exact .path hroot
  | unopened hroot hopen =>
    exact Except.error.inj houtcome ▸ .session hroot (congrArg Prod.fst hopen)
  | @looked p s seen y z hroot hopen hlook =>
    have seen_eq := congrArg Prod.fst hlook
    rcases seen with g | _ | _
    · simp only [verdict] at houtcome
      split at houtcome
      · next hg =>
        obtain ⟨message, path, hfault⟩ := Failure.isMissing_iff.mp hg
        exact Except.error.inj houtcome ▸ .missing hroot hopen seen_eq hfault
      · next hg =>
        refine Except.error.inj houtcome ▸ .look hroot hopen seen_eq (fun message path hfault => ?_)
          (restate_translated g)
        exact hg (Failure.isMissing_iff.mpr ⟨message, path, hfault⟩)
    · exact Except.error.inj houtcome ▸ .unreadable hroot hopen seen_eq
    · cases houtcome

/-- The looks at a root are done in their session. -/
theorem lookAt_followed (b : Backend σ) (s : Session) (p : Path) (y : σ × List Exchange) :
    ∃ work, ((b.followed.lookAt s p).answer y).2.2 = y.2 ++ work ∧ ∀ e ∈ work, e.Within s := by
  simp only [Backend.lookAt, Call.answer_bind, Backend.followed, Call.answer_followed]
  rcases (b.stat s p.toText).answer y.1 with ⟨f | m, z⟩
  · exact ⟨[.worked s .stat (some f)], rfl, by simp [Exchange.Within]⟩
  · refine ⟨[.worked s .stat none,
      .worked s (.permits .read) (thrown ((b.permits s .read p.toText).answer z).1)], ?_, ?_⟩
    · simp [thrown]
    · simp [Exchange.Within]

/-- Opening leaves no session open, and opens none for a text that is no path. -/
theorem Opening.closed {outcome : Except Failure Path} {left : σ × List Exchange}
    (h : Opening b.followed root (x, []) outcome left) :
    Exchange.Closed left.2 ∧ ∀ r, Path.ofText root = .error r → left.2 = [] := by
  cases h with
  | refused hroot => exact ⟨.inl nofun, fun _ _ => rfl⟩
  | unopened hroot hopen =>
    rw [Backend.followed, Call.answer_followed] at hopen
    obtain ⟨hf, rfl⟩ := Prod.mk.inj hopen
    refine ⟨.inl ?_, fun r hr => by simp [hroot] at hr⟩
    simp [hf, Exchange.opening, Exchange.isOpening]
  | @looked p s seen y z hroot hopen hlook =>
    rw [Backend.followed, Call.answer_followed] at hopen
    obtain ⟨hs, rfl⟩ := Prod.mk.inj hopen
    obtain ⟨work, hwork, within⟩ := lookAt_followed b s p _
    rw [hlook] at hwork
    refine ⟨.inr ⟨s, work, thrown ((b.release s).answer z.1).1, ?_, within⟩,
      fun r hr => by simp [hroot] at hr⟩
    show z.2 ++ [_] = _
    rw [show z.2 = _ from hwork, hs]
    rfl

/-- Only the failure to open a session may be in other terms than the gateway's. -/
theorem Rejection.code?_isSome {f : Failure} (h : Rejection b root x f) :
    f.code?.isSome ∨ (b.openSession.answer x).1 = .error f := by
  cases h with
  | path => exact .inl rfl
  | session _ hopen => exact .inr hopen
  | missing => exact .inl rfl
  | unreadable => exact .inl rfl
  | look _ _ _ _ he =>
    obtain ⟨code, message, details, hfault⟩ := he.fault_eq
    exact .inl (by rw [Failure.code?_of_fault hfault]; rfl)

/-- A gateway is opened if and only if its root is a path, a session opens, the root is described
and it can be read.  Then its root is all that the table holds.  Otherwise nothing is registered,
and what is reported is in the gateway's terms, but for a failure to open the session.  Either way
no session is left open, and none is opened for a text that is no path. -/
theorem establish_all_or_nothing (b : Backend σ) (identities : Identity.Registry σ)
    (permissions : PermissionModel) (root : String) (x : σ) (journal : List Journal.Record)
    (observed : List (Operation × Outcome)) :
    let start : World σ := { backend := x, journal := journal, observed := observed }
    let outcome := (establish b identities permissions root).answer start
    let calls := openingCalls b identities permissions root start
    ((∃ g, outcome.1 = .ok g) ↔ ∃ p s y m z v, Path.ofText root = .ok p ∧
      b.openSession.answer x = (.ok s, y) ∧ (b.stat s p.toText).answer y = (.ok m, z) ∧
        (b.permits s .read p.toText).answer z = (.ok true, v)) ∧
    (∀ g, outcome.1 = .ok g →
      Path.ofText root = .ok g.rootPath ∧ outcome.2.inodes = Inodes.mounted g.rootPath) ∧
    (∀ f, outcome.1 = .error f → outcome.2.inodes = {} ∧ Rejection b root x f ∧
      (f.code?.isSome ∨ (b.openSession.answer x).1 = .error f)) ∧
    Exchange.Closed calls ∧ (∀ r, Path.ofText root = .error r → calls = []) := by
  intro start outcome calls
  obtain ⟨goes, table⟩ := mount_opening b identities permissions root (w := start) rfl
  obtain ⟨closed, unopened⟩ := (mount_opening b.followed identities.followed permissions root
    (w := start.following) rfl).1.closed
  have outcome_eq : outcome = (((mount b identities permissions root).answer start).1.map fun p =>
      ⟨b, identities, permissions, p⟩, ((mount b identities permissions root).answer start).2) := by
    rw [← Call.answer_map, ← establish_eq_map]
  have calls_eq : calls = ((mount b.followed identities.followed permissions root).answer
      start.following).2.backend.2 := by
    simp only [calls, openingCalls, establish_eq_map, Call.answer_map]
  rw [outcome_eq, calls_eq]
  generalize (mount b identities permissions root).answer start = mounted at goes table
  obtain ⟨r, w⟩ := mounted
  refine ⟨⟨?_, ?_⟩, ?_, ?_, closed, unopened⟩
  · rintro ⟨g, hg⟩
    obtain ⟨p, rfl, -⟩ := ok_of_map hg
    obtain ⟨hroot, s, y, m, z, v, calls⟩ := (goes.ok_iff p).mp rfl
    exact ⟨p, s, y, m, z, v, hroot, calls⟩
  · rintro ⟨p, s, y, m, z, v, hroot, calls⟩
    obtain rfl := (goes.ok_iff p).mpr ⟨hroot, s, y, m, z, v, calls⟩
    exact ⟨_, rfl⟩
  · intro g hg
    obtain ⟨p, rfl, rfl⟩ := ok_of_map hg
    exact ⟨((goes.ok_iff p).mp rfl).1, table⟩
  · intro f hf
    obtain rfl := error_of_map hf
    exact ⟨table, goes.rejection, goes.rejection.code?_isSome⟩

/-- The storage is down when the gateway is opened: this is not reported in the gateway's terms, as
every operation would report it. -/
theorem establish_escapes :
    let down := Failure.backend .io "no session" none
    let storage : Injected Memory :=
      ⟨Memory.empty ⟨"rods", "tempZone"⟩ 1000000 (.at 0), [⟨.openSession, none, down⟩]⟩
    let outcome := (establish (Memory.backend.injected {}) (Identity.static {})
      PermissionModel.fixed "/tempZone/home/rods").answer { backend := storage }
    outcome.1 = .error down ∧ down.code? = none ∧ (restate down).code? = some .ioFailure :=
  ⟨rfl, rfl, rfl⟩

end Gateway

end InodeGateway
