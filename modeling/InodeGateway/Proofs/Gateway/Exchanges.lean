import InodeGateway.Backend.Injected
import InodeGateway.Proofs.Gateway.Mirror
import InodeGateway.Proofs.Gateway.Stages

/-!
# The calls that a gateway makes

A gateway can be followed: each call that it makes is written down with the session that it belongs
to and with the failure that it threw, and nothing else changes.  So it can be said how many
sessions an operation opened, what it did in them, and what was thrown meanwhile.

## Main definitions

* `Exchange` — one call, and how it went
* `Gateway.followed` — the same gateway, with its calls written down
* `Gateway.exchanges` — the calls that were made while a request was served

## Main statements

* `Gateway.perform_followed` — following a gateway changes nothing
-/

namespace InodeGateway

/-- One call of a gateway, and how it went. -/
inductive Exchange where
  /-- A session was opened. -/
  | opened (s : Session)
  /-- No session could be opened. -/
  | notOpened (f : Failure)
  /-- Something was asked for within a session. -/
  | worked (s : Session) (target : Target) (thrown : Option Failure)
  /-- A session was released, perhaps with a failure that came too late to matter. -/
  | released (s : Session) (thrown : Option Failure)
  /-- The registry of identities was asked about an owner. -/
  | asked (owner : String) (thrown : Option Failure)

variable {σ α : Type}

/-- The failure of an answer. -/
def thrown : Except Failure α → Option Failure
  | .ok _ => none
  | .error f => some f

/-- The same call, written down as `exchange` of its answer. -/
def Call.followed (exchange : Except Failure α → Exchange) (c : Call σ α) :
    Call (σ × List Exchange) α := .of fun b =>
  ((c.answer b.1).1, ((c.answer b.1).2, b.2 ++ [exchange (c.answer b.1).1]))

@[simp] theorem Call.answer_followed (exchange : Except Failure α → Exchange) (c : Call σ α)
    (b : σ × List Exchange) :
    (c.followed exchange).answer b =
      ((c.answer b.1).1, ((c.answer b.1).2, b.2 ++ [exchange (c.answer b.1).1])) := rfl

/-- Following a call changes nothing else. -/
theorem Call.extends_followed (exchange : Except Failure α → Exchange) (c : Call σ α) :
    c.Extends Prod.fst (c.followed exchange) := fun _ => ⟨rfl, rfl⟩

/-- What a followed call leads to: what the call itself leads to, and one exchange more. -/
theorem Call.Leads.followed {c : Call σ α} {b : σ × List Exchange}
    {post : α → σ × List Exchange → Prop} {fails : Failure → σ × List Exchange → Prop}
    (exchange : Except Failure α → Exchange)
    (h : c.Leads b.1 (fun x b' => post x (b', b.2 ++ [exchange (.ok x)]))
      fun f b' => fails f (b', b.2 ++ [exchange (.error f)])) :
    (c.followed exchange).Leads b post fails := by
  refine ⟨fun x hx => ?_, fun f hf => ?_⟩
  · simp only [Call.answer_followed] at hx ⊢
    rw [hx]
    exact h.1 x hx
  · simp only [Call.answer_followed] at hf ⊢
    rw [hf]
    exact h.2 f hf

namespace Exchange

/-- An attempt to open a session. -/
def opening : Except Failure Session → Exchange
  | .ok s => .opened s
  | .error f => .notOpened f

/-- The session of a call. -/
def session? : Exchange → Option Session
  | .opened s | .worked s _ _ | .released s _ => some s
  | .notOpened _ | .asked _ _ => none

/-- What is done while the session `s` is open. -/
def Within (s : Session) : Exchange → Prop
  | .worked s' _ _ => s' = s
  | .asked _ _ => True
  | _ => False

def isOpening : Exchange → Bool
  | .opened _ => true
  | _ => false

/-- Whether the session `s` was released. -/
def isReleaseOf (s : Session) : Exchange → Bool
  | .released s' _ => s' = s
  | _ => false

variable {e : Exchange} {s s' : Session}

theorem session?_of_isReleaseOf (h : e.isReleaseOf s) : e.session? = some s := by
  cases e with
  | released s' thrown => exact congrArg some (of_decide_eq_true h)
  | _ => cases h

theorem Within.eq_of_session? (h : e.Within s) (hs : e.session? = some s') : s' = s := by
  cases e with
  | worked s'' target thrown => exact (Option.some.inj hs).symm.trans h
  | asked owner thrown => cases hs
  | _ => exact h.elim

theorem Within.isReleaseOf_eq_false (h : e.Within s) (s' : Session) :
    e.isReleaseOf s' = false := by
  cases e with
  | released s'' thrown => exact h.elim
  | _ => rfl

theorem Within.isOpening_eq_false (h : e.Within s) : e.isOpening = false := by
  cases e with
  | opened s'' => exact h.elim
  | _ => rfl

end Exchange

/-- The same backend, with its calls written down. -/
def Backend.followed (b : Backend σ) : Backend (σ × List Exchange) where
  kind := b.kind
  openSession := b.openSession.followed .opening
  stat s path := (b.stat s path).followed fun answer => .worked s .stat (thrown answer)
  permits s right path :=
    (b.permits s right path).followed fun answer => .worked s (.permits right) (thrown answer)
  create s path kind :=
    (b.create s path kind).followed fun answer => .worked s .create (thrown answer)
  list s path := (b.list s path).followed fun answer => .worked s .list (thrown answer)
  capacity := b.capacity.map fun space s =>
    (space s).followed fun answer => .worked s .capacity (thrown answer)
  release s := (b.release s).followed fun answer => .released s (thrown answer)

/-- A call within a session is written down with its session. -/
theorem Backend.Works.of_followed {b : Backend σ} {s : Session} {c : Call (σ × List Exchange) α}
    (h : b.followed.Works s c) : ∃ (c' : Call σ α) (target : Target), b.Works s c' ∧
      target ≠ .stat ∧ c = c'.followed fun answer => .worked s target (thrown answer) := by
  cases h with
  | permits right path => exact ⟨_, .permits right, .permits right path, nofun, rfl⟩
  | create path kind => exact ⟨_, .create, .create path kind, nofun, rfl⟩
  | list path => exact ⟨_, .list, .list path, nofun, rfl⟩
  | capacity h =>
    obtain ⟨space, hspace, rfl⟩ := Option.map_eq_some_iff.mp h
    exact ⟨_, .capacity, .capacity hspace, nofun, rfl⟩

/-- The same registry of identities, with its calls written down. -/
def Identity.Registry.followed (identities : Identity.Registry σ) :
    Identity.Registry (σ × List Exchange) :=
  ⟨fun owner => (identities.resolve owner).followed fun answer => .asked owner (thrown answer)⟩

/-- The same world, with nothing written down yet. -/
def World.following (w : World σ) : World (σ × List Exchange) :=
  ⟨(w.backend, []), w.inodes, w.journal, w.observed⟩

namespace Gateway

/-- The same gateway, with its calls written down. -/
def followed (g : Gateway σ) : Gateway (σ × List Exchange) :=
  ⟨g.backend.followed, g.identities.followed, g.permissions, g.rootPath⟩

/-- The calls that a gateway makes while it serves a request, oldest first. -/
def exchanges (g : Gateway σ) (w : World σ) (r : Request) : List Exchange :=
  ((g.followed.perform r).answer w.following).2.backend.2

variable (g : Gateway σ)

theorem extends_followed : Extends Prod.fst g g.followed where
  kind := rfl
  permissions := rfl
  rootPath := rfl
  openSession := Call.extends_followed _ _
  stat _ _ := Call.extends_followed _ _
  permits _ _ _ := Call.extends_followed _ _
  create _ _ _ := Call.extends_followed _ _
  list _ _ := Call.extends_followed _ _
  capacity := by
    show Option.Rel _ g.backend.capacity (g.backend.capacity.map fun space s =>
      (space s).followed fun answer => .worked s .capacity (thrown answer))
    cases g.backend.capacity with
    | none => exact .none
    | some space => exact .some fun s => Call.extends_followed _ _
  release _ := Call.extends_followed _ _
  identity _ := Call.extends_followed _ _

theorem followed_stat (s : Session) (path : String) : g.followed.backend.stat s path =
    (g.backend.stat s path).followed fun answer => .worked s .stat (thrown answer) := rfl

theorem followed_resolve (owner : String) : g.followed.identities.resolve owner =
    (g.identities.resolve owner).followed fun answer => .asked owner (thrown answer) := rfl

/-- Following a gateway changes neither its answers nor the world. -/
theorem perform_followed (w : World σ) (r : Request) :
    ((g.followed.perform r).answer w.following).1 = ((g.perform r).answer w).1 ∧
      ((g.followed.perform r).answer w.following).2.viewed Prod.fst = ((g.perform r).answer w).2 :=
  g.extends_followed.perform_view w.following r

end Gateway

end InodeGateway
