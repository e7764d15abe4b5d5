import InodeGateway.Proofs.Inodes.Density
import InodeGateway.Proofs.Path.Ancestry

/-!
# Tables that are closed under parents

A table in which every path lies within a root and has its parent registered before it.  It grows
from the root downwards: only children of what it holds are added.

## Main definitions

* `Inodes.ClosedUnder` — every path lies within the root, behind its parent
* `Inodes.Near` — the paths that are registered or are children of registered ones

## Main statements

* `Inodes.ClosedUnder.sightPath` — sight of a near path keeps the table closed
-/

namespace InodeGateway.Inodes

variable {t t' : Inodes} {h : Handle} {p q root : Path}

/-- Every path lies within the root, and except for the root itself, its parent has a smaller
handle. -/
structure ClosedUnder (root : Path) (t : Inodes) : Prop where
  within : ∀ h p, (h, p) ∈ t.entries → root.contains p
  parents : ∀ h p, (h, p) ∈ t.entries → p ≠ root →
    ∃ k q, p.parent? = some q ∧ (k, q) ∈ t.entries ∧ k < h

/-- A path that is registered, or a child of one that is. -/
def Near (t : Inodes) (p : Path) : Prop :=
  (∃ h, (h, p) ∈ t.entries) ∨ ∃ k q n, (k, q) ∈ t.entries ∧ p = q.child n

theorem Near.grows (hp : t.Near p) (grown : t.entries <+: t'.entries) : t'.Near p := by
  rcases hp with ⟨h, hmem⟩ | ⟨k, q, n, hmem, heq⟩
  · exact .inl ⟨h, grown.subset hmem⟩
  · exact .inr ⟨k, q, n, grown.subset hmem, heq⟩

namespace ClosedUnder

theorem of_root (hpairs : t.entries = [(h, root)]) : t.ClosedUnder root := by
  have only : ∀ k p, (k, p) ∈ t.entries → p = root := by
    intro k p hmem
    rw [hpairs, List.mem_singleton] at hmem
    exact congrArg Prod.snd hmem
  refine ⟨fun k p hmem => ?_, fun k p hmem hne => absurd (only k p hmem) hne⟩
  rw [only k p hmem]
  exact root.contains_self

/-- A child of a registered path is added under the next handle. -/
theorem add_child (closed : t.ClosedUnder root) (ht : t.Dense) (hq : (h, q) ∈ t.entries)
    (n : Name) : (t.draw.2.add (t.last + 1) (q.child n)).ClosedUnder root := by
  have pairs := ht.entries_add_next (q.child n)
  constructor
  · intro k p hmem
    rw [pairs, List.mem_append, List.mem_singleton] at hmem
    rcases hmem with hmem | heq
    · exact closed.within k p hmem
    · -- The new path lies below a path that lies within the root.
      cases heq
      exact Path.contains_child (closed.within h q hq) n
  · intro k p hmem hne
    rw [pairs, List.mem_append, List.mem_singleton] at hmem
    rw [pairs]
    rcases hmem with hmem | heq
    · obtain ⟨k', q', hparent, hmem', hlt⟩ := closed.parents k p hmem hne
      exact ⟨k', q', hparent, List.mem_append_left _ hmem', hlt⟩
    · -- Its parent is the registered path, whose handle was drawn before.
      cases heq
      exact ⟨h, q, Path.parent?_child q n, List.mem_append_left _ hq, ht.lt_next hq⟩

theorem sightPath (closed : t.ClosedUnder root) (ht : t.Dense) (hp : t.Near p) :
    (t.sightPath p).2.ClosedUnder root := by
  rw [ht.sightPath_eq]
  cases hget : t.handles.get? p with
  | some h => exact closed
  | none =>
    -- A path without a handle is near only as a child.
    rcases hp with ⟨h, hmem⟩ | ⟨k, q, n, hmem, rfl⟩
    · rw [ht.coherent.handleGet?_iff.mpr hmem] at hget
      cases hget
    · exact closed.add_child ht hmem n

/-- The parent of a registered path other than the root is registered. -/
theorem parent_registered (closed : t.ClosedUnder root) (hmem : (h, p) ∈ t.entries)
    (hne : p ≠ root) (hparent : p.parent? = some q) : ∃ k, (k, q) ∈ t.entries ∧ k < h := by
  obtain ⟨k, q', hq', hk, hlt⟩ := closed.parents h p hmem hne
  rw [hparent] at hq'
  cases hq'
  exact ⟨k, hk, hlt⟩

end ClosedUnder

end InodeGateway.Inodes
