import InodeGateway.Proofs.Backend.Faulty
import InodeGateway.Proofs.Gateway.Sessions

/-!
# Errands

Gateways are opened over a backend that fails at any time, and clients ask them, one errand after
another.  Whatever fails, no session is lost: each one that was opened is released once, and
nothing is asked of it afterwards.

## Main definitions

* `Errand`, `Premises` — what is asked, and what is kept between errands
* `Premises.serve`, `Premises.serveAll` — errands are run, one after another
* `Tidy` — calls that release each session once and then leave it alone
* `Premises.Balanced` — an errand after which nothing is left over

## Main statements

* `Tidy.episode` — an episode keeps calls tidy
* `Premises.serveAll_balanced` — every errand over a backend in memory or on the disk is balanced
-/

namespace InodeGateway

variable {σ ι : Type}

/-- What can be asked. -/
inductive Errand (ι : Type) where
  /-- A gateway is opened at the root that a text spells. -/
  | establish (registry : Identity.Registry ι) (permissions : PermissionModel) (root : String)
  /-- A gateway is asked; they are counted from zero in the order in which they were opened. -/
  | request (number : Nat) (r : Request)

/-- What is kept between errands: the backend and the registry, the calls so far, and the open
gateways with their tables. -/
structure Premises (σ ι : Type) where
  site : Site σ ι
  calls : List Exchange := []
  gateways : List (Gateway (Site σ ι × List Exchange) × Inodes) := []

/-- Every session that was opened is released once, and nothing is asked of a session after its
release.  All sessions are among those that were opened so far. -/
structure Tidy (opened : Nat) (calls : List Exchange) : Prop where
  known : ∀ e ∈ calls, ∀ s, e.session? = some s → s < opened
  released : ∀ s, .opened s ∈ calls → calls.countP (Exchange.isReleaseOf s) = 1
  silent : calls.Pairwise fun earlier later =>
    ∀ s, earlier.isReleaseOf s → later.session? ≠ some s

namespace Tidy

theorem nil (opened : Nat) : Tidy opened [] where
  known := nofun
  released := nofun
  silent := .nil

/-- An episode keeps calls tidy. -/
theorem episode {p q : Sessions} {calls next : List Exchange} (h : Tidy p.opened calls)
    (hnext : Episode p next q) : Tidy q.opened (calls ++ next) where
  known := by
    refine List.forall_mem_append.mpr ⟨fun e he s hs => ?_, fun e he s hs => ?_⟩
    · exact Nat.lt_of_lt_of_le (h.known e he s hs) hnext.opened_le
    · exact (hnext.session_eq he hs).2
  released s hs := by
    rw [List.countP_append]
    rcases List.mem_append.mp hs with hs | hs
    · -- The session is an old one, and the episode has another.
      have none : next.countP (Exchange.isReleaseOf s) = 0 :=
        List.countP_eq_zero.mpr fun e he hrelease => by
          have new := (hnext.session_eq he (Exchange.session?_of_isReleaseOf hrelease)).1
          exact absurd (h.known _ hs s rfl) (new ▸ Nat.lt_irrefl _)
      rw [h.released s hs, none]
    · have none : calls.countP (Exchange.isReleaseOf s) = 0 :=
        List.countP_eq_zero.mpr fun e he hrelease => by
          have old := h.known e he s (Exchange.session?_of_isReleaseOf hrelease)
          exact absurd old ((hnext.session_eq hs rfl).1 ▸ Nat.lt_irrefl _)
      rw [hnext.released hs, none]
  silent := by
    refine List.pairwise_append.mpr ⟨h.silent, hnext.silent, fun e he e' he' s hrelease hs => ?_⟩
    have old := h.known e he s (Exchange.session?_of_isReleaseOf hrelease)
    exact absurd old ((hnext.session_eq he' hs).1 ▸ Nat.lt_irrefl _)

end Tidy

namespace Premises

variable (b : Backend σ) (pattern : Pattern)

/-- The outcome of an errand, and what it leaves.  Nothing happens if there is no such gateway. -/
def answer (p : Premises σ ι) : Errand ι → Except Failure Unit × Premises σ ι
  | .establish registry permissions root =>
    match (Gateway.establish (b.faulty pattern).followed registry.beside.followed permissions
        root).answer { backend := (p.site, p.calls) } with
    | (.ok g, w) => (.ok (), ⟨w.backend.1, w.backend.2, p.gateways ++ [(g, w.inodes)]⟩)
    | (.error failure, w) => (.error failure, ⟨w.backend.1, w.backend.2, p.gateways⟩)
  | .request number r =>
    match p.gateways[number]? with
    | none => (.ok (), p)
    | some (g, t) =>
      let (outcome, w) := (g.perform r).answer { backend := (p.site, p.calls), inodes := t }
      (outcome.map fun _ => (), ⟨w.backend.1, w.backend.2, p.gateways.set number (g, w.inodes)⟩)

/-- What an errand leaves. -/
def serve (p : Premises σ ι) (errand : Errand ι) : Premises σ ι := (p.answer b pattern errand).2

/-- What errands leave, one after another. -/
def serveAll (p : Premises σ ι) (errands : List (Errand ι)) : Premises σ ι :=
  errands.foldl (serve b pattern) p

/-- After the errand, as many sessions are in use as before.  It opened one at most; every session
that was ever opened is released once, and was left alone from then on.  So no failure tells that a
session was released before, unless a failure that was wanted or one of the registry said so. -/
structure Balanced (account : σ → Sessions) (p : Premises σ ι) (errand : Errand ι) : Prop where
  active : (account (p.serve b pattern errand).site.storage).active =
    (account p.site.storage).active
  opens : ∃ next, (p.serve b pattern errand).calls = p.calls ++ next ∧
    next.countP Exchange.isOpening ≤ 1
  released : ∀ s, .opened s ∈ (p.serve b pattern errand).calls →
    (p.serve b pattern errand).calls.countP (Exchange.isReleaseOf s) = 1
  silent : (p.serve b pattern errand).calls.Pairwise fun earlier later =>
    ∀ s, earlier.isReleaseOf s → later.session? ≠ some s
  blameless : ∀ f, (p.answer b pattern errand).1 = .error f →
    f.LateOnly (Gateway.lateSources pattern.Throws (p.serve b pattern errand).calls)

/-- The gateways are open over the backend that fails, and the calls so far are tidy. -/
structure Orderly (account : σ → Sessions) (p : Premises σ ι) : Prop where
  gateways : ∀ entry ∈ p.gateways, ∃ (registry : Identity.Registry ι)
    (permissions : PermissionModel) (rootPath : Path),
    entry.1 = Gateway.followed ⟨b.faulty pattern, registry.beside, permissions, rootPath⟩
  calls : Tidy (account p.site.storage).opened p.calls

variable {b pattern} {account : σ → Sessions}

/-- A gateway that was opened makes the calls that it was opened with. -/
theorem eq_followed {g : Gateway (Site σ ι × List Exchange)} {registry : Identity.Registry ι}
    (hbackend : g.backend = (b.faulty pattern).followed)
    (hidentities : g.identities = registry.beside.followed) :
    g = Gateway.followed ⟨b.faulty pattern, registry.beside, g.permissions, g.rootPath⟩ := by
  obtain ⟨backend, identities, permissions, rootPath⟩ := g
  cases hbackend
  cases hidentities
  rfl

section Account

variable (A : b.Accounts account fun _ => False)
include A

theorem accounts (pattern : Pattern) (registry : Identity.Registry ι)
    (permissions : PermissionModel) (rootPath : Path) :
    Gateway.Accounts ⟨b.faulty pattern, registry.beside, permissions, rootPath⟩
      (Site.account account) pattern.Throws :=
  ⟨A.faulty pattern, fun _ _ => rfl⟩

/-- An errand is an episode, and it leaves the premises in order. -/
theorem Orderly.answer {p : Premises σ ι} (h : p.Orderly b pattern account) (errand : Errand ι) :
    (p.serve b pattern errand).Orderly b pattern account ∧
      ∃ next, (p.serve b pattern errand).calls = p.calls ++ next ∧
        Episode (account p.site.storage) next (account (p.serve b pattern errand).site.storage) ∧
        ∀ f, (p.answer b pattern errand).1 = .error f →
          f.LateOnly (Gateway.lateSources pattern.Throws (p.serve b pattern errand).calls) := by
  cases errand with
  | establish registry permissions root =>
    have opened := Gateway.Accounts.establish_episode (accounts A pattern registry permissions) root
      { backend := (p.site, p.calls) }
    simp only [serve, Premises.answer]
    rcases heq : (Gateway.establish (b.faulty pattern).followed registry.beside.followed permissions
      root).answer { backend := (p.site, p.calls) } with ⟨f | g, w⟩ <;> rw [heq] at opened <;>
      obtain ⟨⟨next, hnext, hepisode⟩, hfails, hmade⟩ := opened <;>
      have tidy := h.calls.episode hepisode <;> rw [← show w.backend.2 = _ from hnext] at tidy
    · exact ⟨⟨h.gateways, tidy⟩, next, hnext, hepisode, fun f' hf =>
        hfails f' (congrArg Except.error (Except.error.inj hf))⟩
    · obtain ⟨hbackend, hidentities⟩ := hmade g rfl
      refine ⟨⟨?_, tidy⟩, next, hnext, hepisode, nofun⟩
      exact List.forall_mem_append.mpr ⟨h.gateways, List.forall_mem_singleton.mpr
        ⟨registry, _, _, eq_followed hbackend hidentities⟩⟩
  | request number r =>
    simp only [serve, Premises.answer]
    cases hnumber : p.gateways[number]? with
    | none => exact ⟨h, [], (List.append_nil _).symm, .none, nofun⟩
    | some entry =>
      obtain ⟨g, t⟩ := entry
      obtain ⟨registry, permissions, rootPath, rfl⟩ :=
        h.gateways _ (List.mem_of_getElem? hnumber)
      obtain ⟨⟨next, hnext, hepisode⟩, hfails⟩ :=
        (accounts A pattern registry permissions rootPath).perform_episode
          { backend := (p.site, p.calls), inodes := t } r
      have tidy := h.calls.episode hepisode
      rw [show p.calls ++ next = _ from hnext.symm] at tidy
      refine ⟨⟨fun entry hentry => ?_, tidy⟩, next, hnext, hepisode, fun f hf => ?_⟩
      · rcases List.mem_or_eq_of_mem_set hentry with hold | rfl
        · exact h.gateways entry hold
        · exact ⟨registry, permissions, rootPath, rfl⟩
      · exact hfails f (error_of_map hf)

/-- Errands leave the premises in order. -/
theorem Orderly.serveAll {p : Premises σ ι} (h : p.Orderly b pattern account)
    (errands : List (Errand ι)) : (p.serveAll b pattern errands).Orderly b pattern account := by
  induction errands generalizing p with
  | nil => exact h
  | cons errand rest ih => exact ih (h.answer A errand).1

/-- Whatever was asked before, an errand is balanced. -/
theorem balanced_serveAll (site : Site σ ι) (errands : List (Errand ι)) (errand : Errand ι) :
    (({ site := site } : Premises σ ι).serveAll b pattern errands).Balanced b pattern account
      errand := by
  have start : ({ site := site } : Premises σ ι).Orderly b pattern account := ⟨nofun, .nil _⟩
  obtain ⟨orderly, next, hnext, hepisode, hfails⟩ := (start.serveAll A errands).answer A errand
  exact {
    active := hepisode.active_eq
    opens := ⟨next, hnext, hepisode.countP_isOpening⟩
    released := orderly.calls.released
    silent := orderly.calls.silent
    blameless := hfails }

end Account

/-- Gateways are opened and asked in any order, over a backend in memory or on the disk, and any
call may be made to fail.  No errand leaves a session behind. -/
theorem serveAll_balanced (pattern : Pattern) (registry : ι) (errands : List (Errand ι))
    (errand : Errand ι) :
    (∀ m : Memory, (({ site := ⟨m, registry, 0⟩ } : Premises Memory ι).serveAll Memory.backend
      pattern errands).Balanced Memory.backend pattern Memory.sessions errand) ∧
    (∀ l : Local, (({ site := ⟨l, registry, 0⟩ } : Premises Local ι).serveAll Local.backend
      pattern errands).Balanced Local.backend pattern Local.sessions errand) :=
  ⟨fun _ => balanced_serveAll Memory.accounts _ _ _,
    fun _ => balanced_serveAll Local.accounts _ _ _⟩

end Premises

end InodeGateway
