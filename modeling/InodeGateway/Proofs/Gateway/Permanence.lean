import InodeGateway.Proofs.Gateway.Run

/-!
# Handles are permanent

Whatever clients ask and whatever the backend answers, the pairs of the table stay where they are
and new ones come after them.  So a handle stands for one path for ever, and a path has one handle
for ever.

## Main definitions

* `Inodes.Kept` — what a later table has kept of an earlier one

## Main statements

* `Gateway.OpenedAt.afterSteps_kept` — a run keeps the table of every earlier moment
-/

namespace InodeGateway

/-- What a later table `t'` has kept of an earlier table `t`. -/
structure Inodes.Kept (t t' : Inodes) : Prop where
  /-- The pairs are in the same places, and new ones come after them. -/
  grown : t.entries <+: t'.entries
  /-- A handle that stood for a path still does. -/
  resolves : ∀ h p, Gateway.pathFor t h = .ok p → Gateway.pathFor t' h = .ok p
  /-- No path has got a second handle. -/
  one_handle : ∀ h h' p, Gateway.pathFor t h = .ok p → Gateway.pathFor t' h' = .ok p → h' = h
  /-- No handle has been given to another path. -/
  one_path : ∀ h p p', Gateway.pathFor t h = .ok p → Gateway.pathFor t' h = .ok p' → p' = p
  /-- A spelling that led to a handle still leads to it. -/
  found : ∀ text h, t.handleOf text = .ok (some h) → t'.handleOf text = .ok (some h)
  /-- The number of handles has not decreased. -/
  size_le : t.size ≤ t'.size

namespace Gateway

/-- A table whose pairs begin with those of an earlier one has kept all that matters of it. -/
theorem kept_of_prefix {t t' : Inodes} (ht : t.Coherent) (ht' : t'.Coherent)
    (grown : t.entries <+: t'.entries) : t.Kept t' := by
  have still : ∀ {h p}, pathFor t h = .ok p → (h, p) ∈ t'.entries :=
    fun hp => grown.subset ((pathFor_iff ht).mp hp)
  refine ⟨grown, fun h p hp => (pathFor_iff ht').mpr (still hp), ?_, ?_, ?_, grown.length_le⟩
  · intro h h' p hp hp'
    exact ht'.handle_unique (still hp) ((pathFor_iff ht').mp hp')
  · intro h p p' hp hp'
    exact ht'.path_unique (still hp) ((pathFor_iff ht').mp hp')
  · intro text h hfound
    obtain ⟨p, htext, hmem⟩ := ht.handleOf_iff.mp hfound
    exact ht'.handleOf_iff.mpr ⟨p, htext, grown.subset hmem⟩

variable {σ : Type} {g : Gateway σ}

/-- The table is coherent, the root is registered, and the pairs begin with those of an earlier
table. -/
structure GrownFrom (g : Gateway σ) (t₀ t : Inodes) : Prop where
  coherent : t.Coherent
  rooted : (Handle.root, g.rootPath) ∈ t.entries
  grown : t₀.entries <+: t.entries

/-- Nothing but the table itself is needed to keep the earlier pairs: any path may be sighted, and
the backend may answer what it likes. -/
theorem contract_grownFrom (g : Gateway σ) (t₀ : Inodes) :
    g.Contract (fun _ t => g.GrownFrom t₀ t) (fun _ _ => True) (fun _ _ => True) where
  explains := explains_true g
  coherent ht := ht.coherent
  rooted ht := ht.rooted
  call _ _ _ ht := ht
  sight {_ t p} ht _ := by
    have longer := t.entries_prefix_sightPath p
    exact ⟨⟨ht.coherent.sightPath p, longer.subset ht.rooted, ht.grown.trans longer⟩,
      fun _ _ => trivial⟩
  grows _ _ := trivial
  child _ _ _ := trivial
  parent _ _ _ _ _ := trivial
  listed _ _ _ _ _ _ _ _ _ := trivial

/-- A pair that is written straight into the table comes last as well. -/
theorem keeps_grownFrom (t₀ : Inodes) (step : Step σ) :
    step.Keeps fun _ t => g.GrownFrom t₀ t := by
  cases step with
  | request r => trivial
  | change f => exact fun _ _ ht => ht
  | plant h text =>
    intro b t ht
    have longer := t.entries_prefix_register h text
    exact ⟨ht.coherent.register h text, longer.subset ht.rooted, ht.grown.trans longer⟩

theorem afterSteps_grownFrom {w : World σ} {t₀ : Inodes} (hw : g.GrownFrom t₀ w.inodes)
    (steps : List (Step σ)) : g.GrownFrom t₀ (g.afterSteps w steps).inodes :=
  (contract_grownFrom g t₀).afterSteps hw fun step _ => keeps_grownFrom t₀ step

namespace OpenedAt

variable {root : String} {w : World σ}

theorem grownFrom (opened : g.OpenedAt root w) : g.GrownFrom w.inodes w.inodes := by
  obtain ⟨-, hinodes⟩ := opened.inodes_eq
  refine ⟨?_, ?_, List.prefix_rfl⟩
  · rw [hinodes]
    exact Inodes.coherent_mounted g.rootPath
  · rw [hinodes, Inodes.entries_mounted]
    exact List.mem_singleton_self _

/-- Whatever happened before, a run keeps the table as it found it: pairs stay where they are, and
new ones come after them. -/
theorem afterSteps_kept (opened : g.OpenedAt root w) (before run : List (Step σ)) :
    (g.afterSteps w before).inodes.Kept (g.afterSteps w (before ++ run)).inodes := by
  have early := afterSteps_grownFrom opened.grownFrom before
  have late : g.GrownFrom (g.afterSteps w before).inodes
      (g.afterSteps w (before ++ run)).inodes := by
    rw [afterSteps_append]
    exact afterSteps_grownFrom ⟨early.coherent, early.rooted, List.prefix_rfl⟩ run
  exact kept_of_prefix early.coherent late.coherent late.grown

/-- A pair that was written straight into the table is kept while a client makes a directory. -/
theorem overMemory_kept :
    (overMemory.afterSteps openTree [.plant 5 "/a//b"]).inodes.Kept
        (overMemory.afterSteps openTree
          ([.plant 5 "/a//b"] ++ [.request (.create 1 "c" "directory" ⟨0, 0⟩ 493)])).inodes ∧
      (overMemory.afterSteps openTree
        [.plant 5 "/a//b", .request (.create 1 "c" "directory" ⟨0, 0⟩ 493)]).inodes.size = 3 :=
  ⟨overMemory_openedAt.afterSteps_kept [.plant 5 "/a//b"]
    [.request (.create 1 "c" "directory" ⟨0, 0⟩ 493)], by decide⟩

end OpenedAt

end Gateway

end InodeGateway
