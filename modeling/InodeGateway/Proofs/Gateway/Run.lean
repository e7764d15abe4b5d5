import InodeGateway.Backend.Memory
import InodeGateway.Proofs.Gateway.Operations

/-!
# Runs of an open gateway

A gateway is opened over an empty table.  From then on clients ask, whatever lies behind the gateway
changes between their requests, and pairs may be written straight into the table.

## Main definitions

* `Gateway.OpenedAt` — a gateway just opened at a root, and the world it was opened in
* `Gateway.Step`, `Gateway.afterSteps` — what happens to an open gateway, one step after another
* `Gateway.overMemory` — a gateway over a new tree in memory

## Main statements

* `Gateway.OpenedAt.inodes_eq` — after opening, the root is all that the table holds
* `Gateway.Contract.afterSteps` — what every step keeps, every run keeps
-/

namespace InodeGateway

/-- The table that holds the root and nothing else. -/
def Inodes.mounted (p : Path) : Inodes := ({ rootReserved := true } : Inodes).add Handle.root p

theorem Inodes.entries_mounted (p : Path) : (mounted p).entries = [(Handle.root, p)] := rfl

/-- The root alone is coherent. -/
theorem Inodes.coherent_mounted (p : Path) : (mounted p).Coherent :=
  Coherent.empty.mountRoot p

namespace Gateway

variable {σ : Type}

/-- What can happen to an open gateway. -/
inductive Step (σ : Type) where
  /-- A client asks. -/
  | request (r : Request)
  /-- What lies behind the gateway changes by itself. -/
  | change (f : σ → σ)
  /-- A pair is written straight into the table. -/
  | plant (h : Handle) (text : String)

def afterStep (g : Gateway σ) (w : World σ) : Step σ → World σ
  | .request r => g.after w r
  | .change f => { w with backend := f w.backend }
  | .plant h text => { w with inodes := (w.inodes.register h text).2 }

/-- The world after steps, one after another. -/
def afterSteps (g : Gateway σ) (w : World σ) (steps : List (Step σ)) : World σ :=
  steps.foldl g.afterStep w

@[simp] theorem afterSteps_append (g : Gateway σ) (w : World σ) (xs ys : List (Step σ)) :
    g.afterSteps w (xs ++ ys) = g.afterSteps (g.afterSteps w xs) ys :=
  List.foldl_append

theorem afterSteps_requests (g : Gateway σ) (w : World σ) (rs : List Request) :
    g.afterSteps w (rs.map .request) = g.afterAll w rs :=
  List.foldl_map

/-- The gateway has just been opened, over an empty table, at the root that the text spells; the
world is the one in which that left it. -/
def OpenedAt (root : String) (g : Gateway σ) (w : World σ) : Prop :=
  ∃ (backend : Backend σ) (identities : Identity.Registry σ) (permissions : PermissionModel)
    (start : World σ), start.inodes = {} ∧
      (establish backend identities permissions root).answer start = (.ok g, w)

/-- Looking whether the root can be read leaves the table as it is. -/
theorem leaves_rootReadable (g : Gateway σ) (s : Session) (t : Inodes) :
    Act.Leaves t (g.rootReadable s) := by
  have looked : Act.Leaves t (do
      let _ ← Act.call (g.backend.stat s g.rootPath.toText)
      Act.call (g.backend.permits s .read g.rootPath.toText)) :=
    .bind (.call _) fun _ => .call _
  exact .explain (.orMissing looked (fun _ _ _ _ ht => ht) fun _ _ _ _ ht => ht)

/-- Opening registers the root and nothing else. -/
theorem establish_triple (backend : Backend σ) (identities : Identity.Registry σ)
    (permissions : PermissionModel) (root : String) :
    Act.Triple (fun _ t => t = {}) (establish backend identities permissions root)
      (fun g _ t => Path.ofText root = .ok g.rootPath ∧ t = Inodes.mounted g.rootPath)
      (fun _ _ _ => True) := by
  unfold establish
  -- The path stands in the precondition of all that follows, until it is mounted.
  refine .bind (M := fun p _ t => t = {} ∧ Path.ofText root = .ok p) (.check fun _ _ ht =>
    ⟨fun _ hp => ⟨ht, hp⟩, fun _ _ => trivial⟩) fun p => .assuming fun hp => ?_
  refine .bind (.note _ _ _) fun _ => .bind (M := fun _ _ t => t = {}) ?_ fun readable => ?_
  · have looked : Act.Leaves {} (Act.withSession backend
        (rootReadable ⟨backend, identities, permissions, p⟩)) :=
      .withSession backend fun s => leaves_rootReadable _ s {}
    exact looked.consequence (fun _ _ ht => ht) (fun _ _ _ ht => ht) fun _ _ _ _ => trivial
  · split
    · refine .bind (.table fun _ t ht => ?_) fun _ => .pure fun _ _ h => h
      subst ht
      exact ⟨fun _ _ => ⟨hp, rfl⟩, fun _ _ => trivial⟩
    · exact .fail fun _ _ _ => trivial

namespace OpenedAt

variable {root : String} {g : Gateway σ} {w : World σ}

/-- The root of an open gateway is the path that was asked for, and it is all that the table
holds. -/
theorem inodes_eq (opened : g.OpenedAt root w) :
    Path.ofText root = .ok g.rootPath ∧ w.inodes = Inodes.mounted g.rootPath := by
  obtain ⟨backend, identities, permissions, start, hempty, heq⟩ := opened
  have ends := establish_triple backend identities permissions root start hempty
  rw [heq] at ends
  exact ends

end OpenedAt

section OverMemory

/-- A gateway over a tree in memory, in which the names of owners are their user ids. -/
def overMemory : Gateway Memory := ⟨Memory.backend, Identity.passthrough, .fixed, .root⟩

def newTree : World Memory := { backend := Memory.empty ⟨"7", "grid"⟩ 1024 (.at 0) }

/-- The same world, after the gateway was opened. -/
def openTree : World Memory :=
  ((establish overMemory.backend overMemory.identities overMemory.permissions "/").answer newTree).2

theorem overMemory_openedAt : overMemory.OpenedAt "/" openTree :=
  ⟨overMemory.backend, overMemory.identities, overMemory.permissions, newTree, rfl, rfl⟩

end OverMemory

/-- A step that writes a pair straight into the table. -/
def Step.Plants : Step σ → Prop
  | .plant _ _ => True
  | _ => False

/-- A step that keeps an invariant which requests keep anyway. -/
def Step.Keeps (I : Assertion σ) : Step σ → Prop
  | .request _ => True
  | .change f => ∀ b t, I b t → I (f b) t
  | .plant h text => ∀ b t, I b t → I b (t.register h text).2

namespace Contract

variable {g : Gateway σ} {I : Assertion σ} {E : Failure → σ → Prop} {A : Inodes → Path → Prop}
  {w : World σ}

/-- A request keeps the invariant, whatever its outcome. -/
theorem after (C : g.Contract I E A) (hw : I w.backend w.inodes) (r : Request) :
    I (g.after w r).backend (g.after w r).inodes :=
  ((C.perform_triple r).consequence (fun _ _ hI => hI) (fun _ _ _ ⟨hI, _⟩ => hI)
    fun _ _ _ ⟨hI, _⟩ => hI).ends hw

theorem afterStep (C : g.Contract I E A) (hw : I w.backend w.inodes) {step : Step σ}
    (hstep : step.Keeps I) : I (g.afterStep w step).backend (g.afterStep w step).inodes := by
  cases step with
  | request r => exact C.after hw r
  | change f => exact hstep _ _ hw
  | plant h text => exact hstep _ _ hw

/-- What every step keeps, every run keeps. -/
theorem afterSteps (C : g.Contract I E A) (hw : I w.backend w.inodes) {steps : List (Step σ)}
    (hsteps : ∀ step ∈ steps, step.Keeps I) :
    I (g.afterSteps w steps).backend (g.afterSteps w steps).inodes := by
  induction steps generalizing w with
  | nil => exact hw
  | cons step rest ih =>
    obtain ⟨hstep, hrest⟩ := List.forall_mem_cons.mp hsteps
    exact ih (C.afterStep hw hstep) hrest

end Contract

end Gateway

end InodeGateway
