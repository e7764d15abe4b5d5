import InodeGateway.Proofs.Gateway.Contract
import InodeGateway.Proofs.Gateway.Mirror

/-!
# The failures that calls throw

A gateway can be watched: each failure that its backend or its registry of identities throws is
written down, and nothing else changes.  So it can be said which failures were thrown while a
request was served.

## Main definitions

* `Call.recorded`, `Gateway.recorded` — the same calls, with their failures written down
* `Gateway.thrownBy` — the failures that were thrown while a request was served
* `Failure.Alarming` — the failures that point at a broken table

## Main statements

* `Gateway.perform_recorded` — watching a gateway changes nothing
* `Gateway.recorded_explains` — alarming failures of calls have been written down
-/

namespace InodeGateway

variable {σ α : Type}

/-- The same call; if it fails, its failure is written down. -/
def Call.recorded (c : Call σ α) : Call (σ × List Failure) α := .of fun b =>
  match c.answer b.1 with
  | (.ok a, s) => (.ok a, (s, b.2))
  | (.error f, s) => (.error f, (s, b.2 ++ [f]))

/-- The same backend, with the failures of its calls written down. -/
def Backend.recorded (b : Backend σ) : Backend (σ × List Failure) where
  kind := b.kind
  openSession := b.openSession.recorded
  stat s path := (b.stat s path).recorded
  permits s right path := (b.permits s right path).recorded
  create s path kind := (b.create s path kind).recorded
  list s path := (b.list s path).recorded
  capacity := b.capacity.map fun space s => (space s).recorded
  release s := (b.release s).recorded

/-- The same registry of identities, with the failures of its answers written down. -/
def Identity.Registry.recorded (identities : Identity.Registry σ) :
    Identity.Registry (σ × List Failure) :=
  ⟨fun owner => (identities.resolve owner).recorded⟩

/-- The same world, with nothing written down yet. -/
def World.recording (w : World σ) : World (σ × List Failure) :=
  ⟨(w.backend, []), w.inodes, w.journal, w.observed⟩

/-- The world without what was written down. -/
def World.unrecorded (w : World (σ × List Failure)) : World σ :=
  ⟨w.backend.1, w.inodes, w.journal, w.observed⟩

/-- A failure that points at a broken table. -/
def Failure.Alarming (f : Failure) : Prop :=
  f.code? = some .alreadyMapped ∨ f.code? = some .internalInconsistency

namespace Call

variable (c : Call σ α) (b : σ × List Failure)

theorem answer_recorded : (c.recorded.answer b).1 = (c.answer b.1).1 := by
  rw [recorded, answer_of]
  rcases c.answer b.1 with ⟨f | a, s⟩ <;> rfl

theorem state_recorded : (c.recorded.answer b).2.1 = (c.answer b.1).2 := by
  rw [recorded, answer_of]
  rcases c.answer b.1 with ⟨f | a, s⟩ <;> rfl

/-- Watching a call changes nothing else. -/
theorem extends_recorded : c.Extends Prod.fst c.recorded :=
  fun b => ⟨c.answer_recorded b, c.state_recorded b⟩

/-- What was written down before stays. -/
theorem subset_recorded : b.2 ⊆ (c.recorded.answer b).2.2 := by
  rw [recorded, answer_of]
  rcases c.answer b.1 with ⟨f | a, s⟩
  · exact List.subset_append_left _ _
  · exact List.Subset.refl _

/-- A failure that is thrown is written down. -/
theorem mem_recorded {f : Failure} (h : (c.recorded.answer b).1 = .error f) :
    f ∈ (c.recorded.answer b).2.2 := by
  rw [recorded, answer_of] at h ⊢
  rcases heq : c.answer b.1 with ⟨f' | a, s⟩
  · simp only [heq, Except.error.injEq] at h ⊢
    exact List.mem_append_right _ (List.mem_singleton.mpr h.symm)
  · simp [heq] at h

end Call

namespace Gateway

/-- The same gateway, with the failures of the calls that it makes written down. -/
def recorded (g : Gateway σ) : Gateway (σ × List Failure) :=
  ⟨g.backend.recorded, g.identities.recorded, g.permissions, g.rootPath⟩

/-- The failures that the backend and the registry of identities threw while a request was served,
oldest first. -/
def thrownBy (g : Gateway σ) (w : World σ) (r : Request) : List Failure :=
  ((g.recorded.perform r).answer w.recording).2.backend.2

variable (g : Gateway σ)

theorem recorded_extends : Extends Prod.fst g g.recorded where
  kind := rfl
  permissions := rfl
  rootPath := rfl
  openSession := g.backend.openSession.extends_recorded
  stat _ _ := Call.extends_recorded _
  permits _ _ _ := Call.extends_recorded _
  create _ _ _ := Call.extends_recorded _
  list _ _ := Call.extends_recorded _
  capacity := by
    show Option.Rel _ g.backend.capacity (g.backend.capacity.map fun space s => (space s).recorded)
    cases g.backend.capacity with
    | none => exact .none
    | some space => exact .some fun s => (space s).extends_recorded
  release _ := Call.extends_recorded _
  identity _ := Call.extends_recorded _

/-- Watching a gateway changes neither its answers nor the world. -/
theorem perform_recorded (w : World σ) (r : Request) :
    ((g.recorded.perform r).answer w.recording).1 = ((g.perform r).answer w).1 ∧
      ((g.recorded.perform r).answer w.recording).2.unrecorded = ((g.perform r).answer w).2 :=
  g.recorded_extends.perform_view w.recording r

/-- Whatever a watched gateway calls is watched. -/
theorem Makes.recorded {c : Call (σ × List Failure) α} (h : g.recorded.Makes c) :
    ∃ c₀ : Call σ α, c = c₀.recorded := by
  cases h with
  | capacity hcapacity s =>
    obtain ⟨space, -, hspace⟩ := Option.map_eq_some_iff.mp hcapacity
    exact ⟨space s, by rw [← hspace]⟩
  | _ => exact ⟨_, rfl⟩

/-- An alarming failure of a call has been written down. -/
theorem recorded_explains : g.recorded.Explains fun f b => f.Alarming → f ∈ b.2 where
  call hc _ _ hf _ := by
    obtain ⟨c₀, rfl⟩ := Makes.recorded g hc
    exact c₀.mem_recorded _ hf
  released {_ b} hthrown s halarming :=
    (g.backend.release s).subset_recorded b (hthrown halarming)
  harmless hmapped hbroken _ halarming := (halarming.elim hmapped hbroken).elim

end Gateway

end InodeGateway
