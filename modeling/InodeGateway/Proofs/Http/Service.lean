import InodeGateway.Http.Service
import InodeGateway.Proofs.Gateway.Density

/-!
# What serving does

A service asks its gateway for nothing but operations, one after another.  So what the operations
keep, every reply keeps, and the service keeps it over its whole life.

## Main definitions

* `Http.Service.Performs` — actions that leave what operations leave
* `Http.Service.Reached` — the states that a service comes to

## Main statements

* `Http.Service.serve_performs`, `Http.Service.respond_performs` — a request is answered by
  operations alone
* `Http.Service.Reached.denseAt` — the table of a service is dense
-/

namespace InodeGateway.Http.Service

variable {σ α : Type} {s : Service σ} {state : ServiceState σ}

/-- A failure is told in a reply, which has no other ending. -/
theorem replying_triple {a : Act σ α} {reply : α → Reply} {pre : Assertion σ}
    {post : Reply → Assertion σ} {fails : Failure → Assertion σ}
    (h : Act.Triple pre a (fun x => post (reply x)) fun f => post (.ofFailure f)) :
    Act.Triple pre (replying a reply) post fails := by
  intro w hw
  have ends := h w hw
  rw [replying, Call.answer_of]
  rcases heq : a.answer w with ⟨f | x, after⟩ <;> rw [heq] at ends <;> exact ends

/-- What a request says is looked at without touching anything. -/
theorem once_triple {ready : Except Reply α} {act : α → Act σ Reply} {pre : Assertion σ}
    {post : Reply → Assertion σ} {fails : Failure → Assertion σ}
    (hok : ∀ x, ready = .ok x → Act.Triple pre (act x) post fails)
    (herror : ∀ reply, ready = .error reply → ∀ b t, pre b t → post reply b t) :
    Act.Triple pre (once ready act) post fails := by
  unfold once
  cases ready with
  | ok x => exact hok x rfl
  | error reply => exact .pure (herror reply rfl)

/-- The action leaves the world as some operations leave it, one after another. -/
def Performs (g : Gateway σ) (a : Act σ α) : Prop :=
  ∀ w, ∃ rs, (a.answer w).2 = g.afterAll w rs

namespace Performs

variable {g : Gateway σ} {a : Act σ α}

theorem pure (x : α) : Performs g (pure x) := fun _ => ⟨[], rfl⟩

/-- An operation is performed when it is asked for. -/
theorem of_perform {r : InodeGateway.Request} {answer : α → Answer}
    (h : g.perform r = answer <$> a) : Performs g a := by
  refine fun w => ⟨[r], ?_⟩
  show _ = ((g.perform r).answer w).2
  rw [h, Call.answer_map]

theorem bind {β : Type} {f : α → Act σ β} (ha : Performs g a) (hf : ∀ x, Performs g (f x)) :
    Performs g (a >>= f) := by
  intro w
  obtain ⟨rs, hrs⟩ := ha w
  rw [Call.answer_bind]
  rcases heq : a.answer w with ⟨e | x, after⟩ <;> rw [heq] at hrs
  · exact ⟨rs, hrs⟩
  · obtain rfl : after = g.afterAll w rs := hrs
    obtain ⟨rest, hrest⟩ := hf x (g.afterAll w rs)
    exact ⟨rs ++ rest, hrest.trans List.foldl_append.symm⟩

theorem replying (ha : Performs g a) (reply : α → Reply) :
    Performs g (Service.replying a reply) := by
  intro w
  obtain ⟨rs, hrs⟩ := ha w
  refine ⟨rs, ?_⟩
  rw [Service.replying, Call.answer_of, ← hrs]
  rcases a.answer w with ⟨f | x, after⟩ <;> rfl

theorem once {ready : Except Reply α} {act : α → Act σ Reply} (hact : ∀ x, Performs g (act x)) :
    Performs g (Service.once ready act) := by
  unfold Service.once
  cases ready with
  | ok x => exact hact x
  | error reply => exact .pure reply

end Performs

/-- Serving a request is performing operations. -/
theorem serve_performs (s : Service σ) (state : ServiceState σ) (route : Route) (document : Json) :
    Performs s.gateway (s.serve state route document) := by
  have looks : ∀ h, Performs s.gateway (s.gateway.getAttributes h) := fun h =>
    .of_perform (r := .getAttributes h) rfl
  have ready : Performs s.gateway s.readiness := by
    intro w
    obtain ⟨rs, hrs⟩ := looks Handle.root w
    refine ⟨rs, ?_⟩
    rw [readiness, Call.answer_of, ← hrs]
    rcases (s.gateway.getAttributes Handle.root).answer w with ⟨f | x, after⟩ <;> rfl
  cases route with
  | health => exact .pure _
  | ready => exact ready
  | readyz => exact ready
  | metrics => exact .pure _
  | root => exact .pure _
  | statistics => exact .replying (.of_perform (r := .statistics) rfl) _
  | attributes handle => exact .once fun h => .replying (looks h) _
  | children handle => exact .once fun h => .replying (.of_perform (r := .list h) rfl) _
  | child handle name => exact .once fun _ => .replying (.of_perform (r := .lookup _ _) rfl) _
  | parent handle => exact .once fun h => .replying (.of_perform (r := .parentOf h) rfl) _
  | access handle => exact .once fun _ => .replying (.of_perform (r := .checkAccess _ _) rfl) _
  | create handle =>
    refine .once fun _ => .replying (.bind ?_ fun made => .bind (looks made) fun _ => .pure _) _
    exact .of_perform (r := .create _ _ _ _ _) rfl

/-- Counting a request changes nothing but the counts. -/
@[simp] theorem world_count (s : Service σ) (state : ServiceState σ) (label : Metrics.RequestLabel) :
    (s.count state label).world = state.world := by
  unfold count
  split <;> rfl

/-- Where there is no route, nothing is touched. -/
theorem world_respondUnknown (s : Service σ) (state : ServiceState σ) (r : Request) :
    (s.respondUnknown state r).2.world = state.world := by
  unfold respondUnknown
  split
  · exact s.world_count _ _
  · rfl

/-- On a route, a request is refused without touching anything, or it is served. -/
theorem world_answerRoute (s : Service σ) (state : ServiceState σ) (r : Request) (route : Route) :
    (s.answerRoute state r route).2.world = state.world ∨ ∃ document,
      (s.answerRoute state r route).2.world =
        ((s.serve state route document).answer state.world).2 ∧
      ∀ reply, ((s.serve state route document).answer state.world).1 = .ok reply →
        (s.answerRoute state r route).1 = reply := by
  unfold answerRoute
  cases r.document with
  | error rejection => exact .inl rfl
  | ok document =>
    refine .inr ⟨documentOf document, ?_⟩
    rcases heq : (s.serve state route (documentOf document)).answer state.world with
      ⟨f | reply, after⟩ <;> simp [heq]

/-- Answering a request is performing operations, or it touches nothing. -/
theorem respond_performs (s : Service σ) (state : ServiceState σ) (r : Request) :
    ∃ rs, (s.respond state r).2.world = s.gateway.afterAll state.world rs := by
  unfold respond
  split
  · split
    · exact ⟨[], rfl⟩
    · split
      · exact ⟨[], s.world_respondUnknown state r⟩
      · next route _ =>
        simp only [respondRoute, world_count]
        rcases s.world_answerRoute state r route with heq | ⟨document, heq, -⟩
        · exact ⟨[], heq⟩
        · rw [heq]
          exact s.serve_performs state route document state.world
  · exact ⟨[], s.world_respondUnknown state r⟩

/-- The states that a service comes to: its gateway was opened, it answered requests, and whatever
lies behind the gateway changed in between. -/
inductive Reached (s : Service σ) : ServiceState σ → Prop
  | opened {root : String} {w : World σ} (h : s.gateway.OpenedAt root w) : Reached s { world := w }
  | responded {state : ServiceState σ} (h : Reached s state) (r : Request) :
      Reached s (s.respond state r).2
  | changed {state : ServiceState σ} (h : Reached s state) (f : σ → σ) :
      Reached s { state with world := { state.world with backend := f state.world.backend } }

/-- Nothing that happens to a service makes its table less than dense. -/
theorem Reached.denseAt (h : s.Reached state) : s.gateway.DenseAt state.world.inodes := by
  induction h with
  | opened h => exact h.denseAt
  | @responded state _ r ih =>
    obtain ⟨rs, heq⟩ := s.respond_performs state r
    rw [heq, ← Gateway.afterSteps_requests]
    exact ih.afterSteps (List.forall_mem_map.mpr fun _ _ => id)
  | changed _ f ih => exact ih

end InodeGateway.Http.Service
