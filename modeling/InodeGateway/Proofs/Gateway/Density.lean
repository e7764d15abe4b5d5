import InodeGateway.Proofs.Gateway.Record
import InodeGateway.Proofs.Gateway.Run
import InodeGateway.Proofs.Inodes.Density

/-!
# Handles are dense

As long as nobody writes into the table past the gateway, its handles are the numbers from one up to
the counter, whatever the backend lists, answers or refuses.  So the gateway never finds its own
table broken: that it reports so is the backend's doing.

## Main definitions

* `Gateway.DenseAt` — a dense table in which the root is registered
* `Gateway.Orderly` — what clients see of it

## Main statements

* `Gateway.OpenedAt.afterSteps_orderly` — every run without writes past the gateway is orderly
-/

namespace InodeGateway

/-- The root alone is dense. -/
theorem Inodes.dense_mounted (p : Path) : (mounted p).Dense :=
  ⟨coherent_mounted p, rfl, rfl⟩

namespace Gateway

variable {σ : Type} {g : Gateway σ} {E : Failure → σ → Prop} {w : World σ} {root : String}

/-- A dense table in which the root is registered. -/
structure DenseAt (g : Gateway σ) (t : Inodes) : Prop where
  dense : t.Dense
  rooted : (Handle.root, g.rootPath) ∈ t.entries

/-- Any path may be sighted, and no sighting fails. -/
theorem contract_denseAt (X : g.Explains E) :
    g.Contract (fun _ t => g.DenseAt t) E (fun _ _ => True) where
  explains := X
  coherent ht := ht.dense.coherent
  rooted ht := ht.rooted
  call _ _ _ ht := ht
  sight {_ t p} ht _ := by
    refine ⟨⟨ht.dense.sightPath p, (t.entries_prefix_sightPath p).subset ht.rooted⟩, ?_⟩
    intro r hr
    obtain ⟨h, hh⟩ := ht.dense.sightPath_ok p
    rw [hh] at hr
    cases hr
  grows _ _ := trivial
  child _ _ _ := trivial
  parent _ _ _ _ _ := trivial
  listed _ _ _ _ _ _ _ _ _ := trivial

theorem DenseAt.after (ht : g.DenseAt w.inodes) (r : Request) : g.DenseAt (g.after w r).inodes :=
  (contract_denseAt g.explains_true).after ht r

theorem DenseAt.afterSteps (ht : g.DenseAt w.inodes) {steps : List (Step σ)}
    (hsteps : ∀ step ∈ steps, ¬ step.Plants) : g.DenseAt (g.afterSteps w steps).inodes := by
  refine (contract_denseAt g.explains_true).afterSteps ht fun step hstep => ?_
  cases step with
  | request r => trivial
  | change f => exact fun _ _ ht => ht
  | plant h text => exact absurd trivial (hsteps _ hstep)

/-- A request ends with an alarming failure only if the backend or the registry of identities threw
it meanwhile. -/
theorem DenseAt.mem_thrownBy (ht : g.DenseAt w.inodes) {r : Request} {f : Failure}
    (hf : ((g.perform r).answer w).1 = .error f) (halarming : f.Alarming) : f ∈ g.thrownBy w r := by
  -- The watched gateway writes alarming failures down and answers what the gateway itself answers.
  have watched : g.recorded.DenseAt w.recording.inodes := ⟨ht.dense, ht.rooted⟩
  have ends := (contract_denseAt g.recorded_explains).perform_triple r w.recording watched
  have same := (g.perform_recorded w r).1.trans hf
  unfold thrownBy
  rcases heq : (g.recorded.perform r).answer w.recording with ⟨f' | answer, after⟩
  · rw [heq] at ends same
    cases same
    exact ends.2 halarming
  · rw [heq] at same
    cases same

/-- Asking for the space changes nothing in the table and counts what it holds. -/
theorem statistics_counts (g : Gateway σ) (t : Inodes) :
    Act.Triple (fun _ t' => t' = t) g.statistics
      (fun s _ t' => t' = t ∧ s.usedFiles = t.size) (fun _ _ t' => t' = t) := by
  have told : Act.Leaves t (Act.withSession g.backend g.space) := by
    refine .withSession g.backend fun s => ?_
    unfold space
    cases g.backend.capacity with
    | none => exact .pure _
    | some capacity => exact .call _
  refine run_triple (fun _ _ _ ht => ht) (.bind told fun space => ?_)
  refine .bind (M := fun used _ t' => t' = t ∧ used = t.size) (.look fun _ t' ht => ?_)
    fun used => .pure fun _ _ h => h
  subst ht
  exact ⟨fun used hused => ⟨rfl, (Except.ok.inj hused).symm⟩, nofun⟩

/-- What clients see of a gateway that was opened at a root, as long as nobody writes into its table
past it. -/
structure Orderly (g : Gateway σ) (root : String) (w : World σ) : Prop where
  /-- The handles, in order of registration, are the numbers from one up to their count. -/
  handles : w.inodes.entries.map Prod.fst =
    (List.range w.inodes.size).map fun i : Nat => (i : Handle) + 1
  /-- The first one stands for the root in its normal form. -/
  first : ∃ p, pathFor w.inodes 1 = .ok p ∧ Spelling.normalize root = .ok p.toText
  /-- The counter is where the handles end. -/
  counter : w.inodes.last = w.inodes.size
  /-- Sight of what the backend tells fails only if that spells no path. -/
  sights : ∀ text r, (w.inodes.sight text).1 = .error r → Path.ofText text = .error r
  /-- Alarming failures were thrown by the backend or by the registry of identities. -/
  alarms : ∀ r f, ((g.perform r).answer w).1 = .error f → f.Alarming → f ∈ g.thrownBy w r
  /-- The number of objects in use is the last handle. -/
  usedFiles : ∀ s w', (g.statistics).answer w = (.ok s, w') →
    (s.usedFiles : Handle) = w.inodes.last ∧ w'.inodes = w.inodes

theorem OpenedAt.denseAt (opened : g.OpenedAt root w) : g.DenseAt w.inodes := by
  obtain ⟨-, hinodes⟩ := opened.inodes_eq
  rw [hinodes]
  exact ⟨Inodes.dense_mounted g.rootPath, List.mem_singleton_self _⟩

/-- Whatever clients ask and whatever the backend lists, answers or refuses: as long as nobody
writes into the table past the gateway, it stays orderly. -/
theorem OpenedAt.afterSteps_orderly (opened : g.OpenedAt root w) {steps : List (Step σ)}
    (hsteps : ∀ step ∈ steps, ¬ step.Plants) : g.Orderly root (g.afterSteps w steps) := by
  have ht := opened.denseAt.afterSteps hsteps
  have hroot := (pathFor_iff ht.dense.coherent).mpr ht.rooted
  refine ⟨ht.dense.handles, ⟨g.rootPath, hroot, Spelling.normalize_of_ofText opened.inodes_eq.1⟩,
    ht.dense.last, fun _ _ hr => ht.dense.sight_error hr, fun _ _ hf => ht.mem_thrownBy hf, ?_⟩
  intro s w' heq
  have ends := statistics_counts g (g.afterSteps w steps).inodes (g.afterSteps w steps) rfl
  rw [heq] at ends
  exact ⟨by rw [ends.2, ht.dense.last], ends.1⟩

/-- Making a directory and listing the root leave a gateway over a tree in memory orderly. -/
theorem overMemory_orderly :
    overMemory.Orderly "/" (overMemory.afterSteps openTree
        [.request (.create 1 "c" "directory" ⟨0, 0⟩ 493), .request (.list 1)]) ∧
      (overMemory.afterSteps openTree
        [.request (.create 1 "c" "directory" ⟨0, 0⟩ 493), .request (.list 1)]).inodes.last = 2 := by
  refine ⟨overMemory_openedAt.afterSteps_orderly fun step hstep => ?_, by decide⟩
  rcases List.mem_cons.mp hstep with rfl | hstep
  · exact id
  · rw [List.mem_singleton.mp hstep]
    exact id

end Gateway

end InodeGateway
