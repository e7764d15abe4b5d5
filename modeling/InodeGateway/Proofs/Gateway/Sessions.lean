import InodeGateway.Proofs.Backend.Accounting
import InodeGateway.Proofs.Gateway.Exchanges

/-!
# The session of an operation

An operation over a backend that keeps account of its sessions opens one session at most.  It works
in that session alone, and releases it as its last call.

## Main definitions

* `Episode` — the calls of one operation, and the account after them
* `Gateway.Accounts` — the calls of a gateway leave the account to the sessions
* `Gateway.lateSources` — where the faults about released sessions may come from

## Main statements

* `Gateway.Accounts.perform_episode` — the calls of an operation are an episode
* `Gateway.Accounts.establish_episode` — so are those of opening a gateway
-/

namespace InodeGateway

/-- The account after a session was opened and released. -/
def Sessions.used (p : Sessions) : Sessions := p.acquire.2.release p.opened

namespace Sessions

theorem active_used (p : Sessions) : p.used.active = p.active := Int.add_sub_cancel p.active 1

theorem opened_used (p : Sessions) : p.used.opened = p.opened + 1 := by
  rw [used, opened_release, opened_acquire]

end Sessions

/-- The calls of one operation, and the account after them: none, an attempt to open a session, or a
session with the work that was done in it. -/
inductive Episode (p : Sessions) : List Exchange → Sessions → Prop
  | none : Episode p [] p
  | notOpened (f : Failure) : Episode p [.notOpened f] p
  | session {work : List Exchange} (hwork : ∀ e ∈ work, e.Within p.opened)
      (thrown : Option Failure) :
      Episode p (.opened p.opened :: work ++ [.released p.opened thrown]) p.used

namespace Episode

variable {p q : Sessions} {calls : List Exchange} {s : Session}

theorem active_eq (h : Episode p calls q) : q.active = p.active := by
  cases h with
  | none => rfl
  | notOpened => rfl
  | session => exact p.active_used

theorem opened_le (h : Episode p calls q) : p.opened ≤ q.opened := by
  cases h with
  | none => exact Nat.le_refl _
  | notOpened => exact Nat.le_refl _
  | session => exact p.opened_used ▸ Nat.le_succ _

theorem countP_isOpening (h : Episode p calls q) : calls.countP Exchange.isOpening ≤ 1 := by
  cases h with
  | none => exact Nat.zero_le 1
  | notOpened => exact Nat.zero_le 1
  | @session work hwork thrown =>
    have idle : work.countP Exchange.isOpening = 0 :=
      List.countP_eq_zero.mpr fun e he => by simp [(hwork e he).isOpening_eq_false]
    rw [List.countP_append, List.countP_cons, idle]
    exact Nat.le_refl 1

/-- An episode has one session, and that is a new one. -/
theorem session_eq (h : Episode p calls q) {e : Exchange} (he : e ∈ calls)
    (hs : e.session? = some s) : s = p.opened ∧ s < q.opened := by
  cases h with
  | none => cases he
  | notOpened =>
    obtain rfl := List.mem_singleton.mp he
    cases hs
  | @session work hwork thrown =>
    have hs : s = p.opened := by
      rcases List.mem_append.mp he with he | he
      · rcases List.mem_cons.mp he with rfl | he
        · exact (Option.some.inj hs).symm
        · exact (hwork e he).eq_of_session? hs
      · obtain rfl := List.mem_singleton.mp he
        exact (Option.some.inj hs).symm
    exact ⟨hs, by rw [hs, p.opened_used]; exact Nat.lt_succ_self _⟩

/-- Nothing is released before the end of an episode. -/
theorem isReleaseOf_eq_false {work : List Exchange} (hwork : ∀ e ∈ work, e.Within p.opened) :
    ∀ e ∈ .opened p.opened :: work, ∀ s, e.isReleaseOf s = false :=
  List.forall_mem_cons.mpr ⟨fun _ => rfl, fun e he => (hwork e he).isReleaseOf_eq_false⟩

/-- The session of an episode is released once. -/
theorem released (h : Episode p calls q) (hs : .opened s ∈ calls) :
    calls.countP (Exchange.isReleaseOf s) = 1 := by
  have new := (h.session_eq hs rfl).1
  cases h with
  | none => cases hs
  | notOpened => cases List.mem_singleton.mp hs
  | @session work hwork thrown =>
    have before : (.opened p.opened :: work).countP (Exchange.isReleaseOf s) = 0 :=
      List.countP_eq_zero.mpr fun e he => by simp [isReleaseOf_eq_false hwork e he s]
    rw [List.countP_append, before, new]
    simp [Exchange.isReleaseOf]

/-- Nothing follows the release in an episode. -/
theorem silent (h : Episode p calls q) : calls.Pairwise fun earlier later =>
    ∀ s, earlier.isReleaseOf s → later.session? ≠ some s := by
  cases h with
  | none => exact .nil
  | notOpened => exact List.pairwise_singleton _ _
  | @session work hwork thrown =>
    have before := isReleaseOf_eq_false hwork
    refine List.pairwise_append.mpr ⟨?_, List.pairwise_singleton _ _, ?_⟩
    · refine List.Pairwise.imp_of_mem (fun {e _} he _ _ s hs => ?_)
        (List.pairwise_of_forall fun _ _ => trivial)
      exact absurd hs (by simp [before e he s])
    · exact fun e he _ _ s hs => absurd hs (by simp [before e he s])

end Episode

namespace Gateway

variable {σ α : Type}

/-- The calls of a gateway leave the account to the sessions. -/
structure Accounts (g : Gateway σ) (account : σ → Sessions) (sources : Fault → Prop) : Prop where
  backend : g.backend.Accounts account sources
  identity : ∀ owner b, account ((g.identities.resolve owner).answer b).2 = account b

/-- Where the faults about released sessions may come from: from these sources, or from the
registry of identities. -/
def lateSources (sources : Fault → Prop) (exchanges : List Exchange) (fault : Fault) : Prop :=
  sources fault ∨ ∃ owner x, .asked owner (some x) ∈ exchanges ∧ fault ∈ x.faults

/-- The session `s` is open: since the account was `p`, it was opened and worked in. -/
def InSession (account : σ → Sessions) (p : Sessions) (earlier : List Exchange) (s : Session)
    (b : σ × List Exchange) : Prop :=
  s = p.opened ∧ account b.1 = p.acquire.2 ∧
    ∃ work, b.2 = earlier ++ .opened s :: work ∧ ∀ e ∈ work, e.Within s

/-- Since the account was `p`, an episode has passed. -/
def AfterEpisode (account : σ → Sessions) (p : Sessions) (earlier : List Exchange)
    (b : σ × List Exchange) : Prop :=
  ∃ calls, b.2 = earlier ++ calls ∧ Episode p calls (account b.1)

/-- How far the episode has come, and where faults about released sessions may come from. -/
def sessionStages (account : σ → Sessions) (sources : Fault → Prop) (p : Sessions)
    (earlier : List Exchange) : Stages (σ × List Exchange) where
  idle b := account b.1 = p ∧ b.2 = earlier
  busy := InSession account p earlier
  failing s f b := InSession account p earlier s b ∧ f.LateOnly (lateSources sources b.2)
  done := AfterEpisode account p earlier
  failed f b := AfterEpisode account p earlier b ∧ f.LateOnly (lateSources sources b.2)

theorem lateOnly_concat {sources : Fault → Prop} {exchanges : List Exchange} {f : Failure}
    (h : f.LateOnly (lateSources sources exchanges)) (next : Exchange) :
    f.LateOnly (lateSources sources (exchanges ++ [next])) :=
  h.mono fun _ late => late.imp_right fun ⟨owner, x, hasked, hx⟩ =>
    ⟨owner, x, List.mem_append_left _ hasked, hx⟩

theorem lateOnly_of_sources {sources : Fault → Prop} {f : Failure} (h : f.LateOnly sources)
    (exchanges : List Exchange) : f.LateOnly (lateSources sources exchanges) :=
  h.mono fun _ => .inl

section Stages

variable {account : σ → Sessions} {sources : Fault → Prop} {p : Sessions}
  {earlier : List Exchange} {s : Session} {b : σ × List Exchange}

/-- The session stays open while something is done in it. -/
theorem InSession.concat (hb : InSession account p earlier s b) {b' : σ}
    (haccount : account b' = account b.1) {e : Exchange} (he : e.Within s) :
    InSession account p earlier s (b', b.2 ++ [e]) := by
  obtain ⟨hs, hopen, work, hlog, hwork⟩ := hb
  refine ⟨hs, haccount.trans hopen, work ++ [e], ?_, ?_⟩
  · rw [hlog, List.append_assoc, List.cons_append]
  · exact List.forall_mem_append.mpr ⟨hwork, List.forall_mem_singleton.mpr he⟩

/-- The session that is open was not released. -/
theorem InSession.isReleased (hb : InSession account p earlier s b) :
    (account b.1).isReleased s = false := by
  obtain ⟨rfl, hopen, -⟩ := hb
  rw [hopen]
  exact p.isReleased_acquire

variable {g : Gateway σ}

/-- When the session is released, the episode is complete. -/
theorem InSession.release (A : g.Accounts account sources) (hb : InSession account p earlier s b) :
    AfterEpisode account p earlier ((g.followed.backend.release s).answer b).2 := by
  have unreleased := hb.isReleased
  obtain ⟨rfl, hopen, work, hlog, hwork⟩ := hb
  have released := A.backend.release p.opened b.1
  rw [unreleased, if_neg Bool.false_ne_true, hopen] at released
  have episode := Episode.session hwork (thrown ((g.backend.release p.opened).answer b.1).1)
  rw [Sessions.used, ← released] at episode
  refine ⟨_, ?_, episode⟩
  show b.2 ++ [_] = _
  rw [hlog, List.append_assoc, List.cons_append]

/-- Work in a session leaves the account to the sessions. -/
theorem Accounts.works (A : g.Accounts account sources) {c : Call σ α}
    (hc : g.backend.Works s c) : c.Accounted account sources s := by
  cases hc with
  | permits right path => exact A.backend.permits s right path
  | create path kind => exact A.backend.create s path kind
  | list path => exact A.backend.list s path
  | capacity h => exact A.backend.capacity _ h s

/-- The session stays open, whatever a call in it answers, and its failures are to be explained. -/
theorem InSession.leads (hb : InSession account p earlier s b) {c : Call σ α}
    (hc : c.Accounted account sources s) (target : Target) :
    (c.followed fun answer => .worked s target (thrown answer)).Leads b
      (fun _ => InSession account p earlier s)
      fun f b' => InSession account p earlier s b' ∧ f.LateOnly (lateSources sources b'.2) := by
  obtain ⟨haccount, htimely⟩ := hc b.1
  refine .followed _ ⟨fun x _ => hb.concat haccount rfl, fun f hf => ?_⟩
  exact ⟨hb.concat haccount rfl, lateOnly_of_sources (htimely hb.isReleased f hf) _⟩

/-- The calls of a gateway lead through one episode. -/
theorem Accounts.staged (A : g.Accounts account sources) (spares : Bool) :
    Staged g.followed (sessionStages account sources p earlier) spares where
  openSession b hb := by
    obtain ⟨rfl, rfl⟩ := hb
    obtain ⟨opens, fails⟩ := A.backend.openSession b.1
    refine .followed _ ⟨fun s hs => ?_, fun f hf => ?_⟩
    · exact ⟨(opens s hs).1, (opens s hs).2, [], rfl, nofun⟩
    · refine ⟨⟨_, rfl, ?_⟩, lateOnly_of_sources (fails f hf).1 _⟩
      exact (fails f hf).2 ▸ .notOpened f
  work hc hb := by
    obtain ⟨c, target, hworks, -, rfl⟩ := hc.of_followed
    exact hb.leads (A.works hworks) target
  stat {s b} hb path := by
    rw [followed_stat]
    obtain ⟨opens, fails⟩ := hb.leads (A.backend.stat s path) .stat
    refine ⟨opens, fun f hf => ?_⟩
    simp only
    split
    · exact (fails f hf).1
    · exact fails f hf
  identity {s b} hb owner := by
    rw [followed_resolve]
    have haccount := A.identity owner b.1
    refine .followed _ ⟨fun x _ => hb.concat haccount trivial, fun f _ => ?_⟩
    refine ⟨hb.concat haccount trivial, Failure.LateOnly.because (fun fault hfault _ => ?_) id⟩
    -- What the registry has thrown was written down.
    exact .inr ⟨owner, f, List.mem_append_right _ List.mem_cons_self, hfault⟩
  refuse hb _ hf := ⟨hb, hf.lateOnly⟩
  release hb := hb.release A
  fail hb := ⟨hb.1.release A, lateOnly_concat hb.2 _⟩

/-- An operation that needs no session is an episode, too. -/
theorem afterEpisode_of_ends
    (hb : (account b.1 = p ∧ b.2 = earlier) ∨ AfterEpisode account p earlier b) :
    AfterEpisode account p earlier b := by
  rcases hb with ⟨hb, hlog⟩ | hb
  · exact ⟨[], hlog.trans (List.append_nil _).symm, hb ▸ .none⟩
  · exact hb

/-- Restating a failure tells nothing of sessions. -/
theorem lateOnly_restate {f : Failure} (hf : f.LateOnly sources) :
    (restate f).LateOnly sources := by
  unfold restate
  split
  · exact hf
  · exact hf.because id
  · exact hf.because id

theorem lateOnly_of_reports {t : Inodes} {r : Request} {x f : Failure} (h : r.Reports t x f)
    (hx : x.LateOnly sources) : f.LateOnly sources := by
  cases r with
  | checkAccess handle mask =>
    obtain ⟨path, -, rfl⟩ := h
    exact hx.because id
  | _ => exact (show f = x from h) ▸ hx

/-- The calls of an operation are an episode, and what its failure tells of released sessions comes
from the sources or from the registry of identities. -/
theorem Accounts.perform_episode (A : g.Accounts account sources) (w : World (σ × List Exchange))
    (r : Request) :
    AfterEpisode account (account w.backend.1) w.backend.2 (g.followed.after w r).backend ∧
      ∀ f, ((g.followed.perform r).answer w).1 = .error f →
        f.LateOnly (lateSources sources (g.followed.after w r).backend.2) := by
  have ends := (A.staged r.spares).perform_triple r w.inodes w ⟨⟨rfl, rfl⟩, rfl⟩
  unfold after
  rcases heq : (g.followed.perform r).answer w with ⟨e | x, w'⟩ <;> rw [heq] at ends
  · obtain ⟨f, rfl, ⟨hf, hends⟩ | ⟨x, ⟨hends, hx⟩, hreports⟩⟩ := ends
    · exact ⟨afterEpisode_of_ends hends, fun _ h =>
        Except.error.inj h ▸ lateOnly_restate hf.lateOnly⟩
    · exact ⟨hends, fun _ h =>
        Except.error.inj h ▸ lateOnly_restate (lateOnly_of_reports hreports hx)⟩
  · exact ⟨afterEpisode_of_ends ends, nofun⟩

/-- The calls of opening a gateway are an episode as well; the gateway makes the calls that it was
opened with. -/
theorem Accounts.establish_episode {backend : Backend σ} {identities : Identity.Registry σ}
    {permissions : PermissionModel}
    (A : ∀ rootPath, Accounts ⟨backend, identities, permissions, rootPath⟩ account sources)
    (root : String) (w : World (σ × List Exchange)) :
    let outcome := (establish backend.followed identities.followed permissions root).answer w
    AfterEpisode account (account w.backend.1) w.backend.2 outcome.2.backend ∧
      (∀ f, outcome.1 = .error f → f.LateOnly (lateSources sources outcome.2.backend.2)) ∧
      ∀ g', outcome.1 = .ok g' →
        g'.backend = backend.followed ∧ g'.identities = identities.followed := by
  have C : ∀ rootPath, Staged ⟨backend.followed, identities.followed, permissions, rootPath⟩
      (sessionStages account sources (account w.backend.1) w.backend.2) false :=
    fun rootPath => (A rootPath).staged false
  have ends := Staged.establish_triple C (fun _ _ _ _ h => h.1)
    (fun _ _ _ h => ⟨h.1, lateOnly_restate h.2⟩) root w ⟨rfl, rfl⟩
  simp only
  rcases heq : (establish backend.followed identities.followed permissions root).answer w with
    ⟨e | g', w'⟩ <;> rw [heq] at ends
  · refine ⟨?_, fun f h => ?_, nofun⟩
    · rcases ends with ⟨-, hends⟩ | ⟨hends, -⟩
      · exact afterEpisode_of_ends hends
      · exact hends
    · obtain rfl : e = f := Except.error.inj h
      rcases ends with ⟨hf, -⟩ | ⟨-, hf⟩
      · exact hf.lateOnly
      · exact hf
  · obtain ⟨made, hends⟩ := ends
    exact ⟨hends, nofun, fun _ h => Except.ok.inj h ▸ made⟩

end Stages

end Gateway

end InodeGateway
