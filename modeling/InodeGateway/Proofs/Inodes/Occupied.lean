import InodeGateway.Proofs.Inodes.Coherence
import Mathlib.Data.List.Nodup
import Mathlib.Data.List.Perm.Subperm
import Mathlib.Data.Nat.Find

/-!
# Handles that are occupied before they are drawn

Pairs that were written straight into a table may stand under handles that the counter has not
reached.  A new path that is sighted then draws a handle that is occupied: it is refused, and
nothing but the counter moves.  The next sighting draws the next handle, until one is free.

## Main definitions

* `Inodes.RootedAt` — a coherent table in which the root has its handle, which was drawn
* `Inodes.Collides` — sight of a path draws a handle that is occupied
* `Inodes.Ahead` — the number of occupied handles that come next

## Main statements

* `Inodes.RootedAt.sightPath_known`, `Inodes.RootedAt.sightPath_new`,
  `Inodes.RootedAt.sightPath_collides` — the three outcomes of a sighting
* `Inodes.exists_ahead` — the occupied handles come to an end
* `Inodes.Ahead.draw` — each handle that is drawn leaves one less
-/

namespace InodeGateway.Inodes

variable {t : Inodes} {root p q : Path} {h : Handle} {k : Nat}

/-- A coherent table in which the root has its handle, and the counter is there or beyond. -/
structure RootedAt (root : Path) (t : Inodes) : Prop where
  coherent : t.Coherent
  rooted : (Handle.root, root) ∈ t.entries
  drawn : Handle.root ≤ t.last

/-- The path has no handle, and the one that it would get is occupied. -/
structure Collides (t : Inodes) (p : Path) : Prop where
  unseen : ∀ h, (h, p) ∉ t.entries
  occupied : t.Registered (t.last + 1)

/-- The next `k` handles are occupied, and the one after them is free. -/
structure Ahead (t : Inodes) (k : Nat) : Prop where
  occupied : ∀ i < k, t.Registered (t.last + 1 + (i : Handle))
  free : ¬ t.Registered (t.last + 1 + (k : Handle))

theorem Coherent.get?_eq_none_iff (ht : t.Coherent) :
    t.paths.get? h = none ↔ ¬ t.Registered h := by
  simp only [Option.eq_none_iff_forall_ne_some, ne_eq, ht.pathGet?_iff, Registered, not_exists]

theorem last_le_sightPath (t : Inodes) (p : Path) : t.last ≤ (t.sightPath p).2.last := by
  rcases sightPath_cases t p with ⟨h, -, heq⟩ | ⟨-, -, -, heq⟩ | ⟨-, r, heq⟩
  · exact heq ▸ Int.le_refl t.last
  · exact heq ▸ Int.le_add_one (Int.le_refl t.last)
  · exact heq ▸ Int.le_add_one (Int.le_refl t.last)

theorem last_register (t : Inodes) (h : Handle) (text : String) :
    (t.register h text).2.last = t.last := by
  unfold register
  split
  · next p _ =>
    cases hr : (t.registerPath h p).1 with
    | error r => rw [registerPath_error hr]
    | ok _ => rw [(registerPath_ok hr).2.2.2, add]
  · rfl

namespace RootedAt

theorem sightPath (ht : t.RootedAt root) (p : Path) : (t.sightPath p).2.RootedAt root where
  coherent := ht.coherent.sightPath p
  rooted := (t.entries_prefix_sightPath p).subset ht.rooted
  drawn := Int.le_trans ht.drawn (t.last_le_sightPath p)

theorem register (ht : t.RootedAt root) (h : Handle) (text : String) :
    (t.register h text).2.RootedAt root where
  coherent := ht.coherent.register h text
  rooted := (t.entries_prefix_register h text).subset ht.rooted
  drawn := (t.last_register h text).symm ▸ ht.drawn

theorem draw (ht : t.RootedAt root) : t.draw.2.RootedAt root where
  coherent := ht.coherent.draw
  rooted := ht.rooted
  drawn := Int.le_add_one ht.drawn

theorem next_pos (ht : t.RootedAt root) : 0 < t.last + 1 :=
  Int.lt_add_one_of_le (Int.le_of_lt ht.drawn)

/-- The handle of the root stands for nothing else. -/
theorem eq_root_iff (ht : t.RootedAt root) (hmem : (h, p) ∈ t.entries) :
    h = Handle.root ↔ p = root := by
  constructor
  · rintro rfl
    exact ht.coherent.path_unique ht.rooted hmem
  · rintro rfl
    exact ht.coherent.handle_unique ht.rooted hmem

/-- A path that has a handle keeps it. -/
theorem sightPath_known (ht : t.RootedAt root) (hmem : (h, p) ∈ t.entries) :
    t.sightPath p = (.ok h, t) :=
  sightPath_of_some (ht.coherent.handleGet?_iff.mpr hmem)

/-- A new path gets the next handle, if that is free. -/
theorem sightPath_new (ht : t.RootedAt root) (unseen : ∀ h, (h, p) ∉ t.entries)
    (free : ¬ t.Registered (t.last + 1)) :
    t.sightPath p = (.ok (t.last + 1), t.draw.2.add (t.last + 1) p) := by
  have hp := ht.coherent.handleGet?_eq_none unseen
  have hh := ht.coherent.get?_eq_none_iff.mpr free
  rw [sightPath_eq, hp, registerPath_eq, if_neg (Int.not_le.mpr ht.next_pos)]
  simp only [Inodes.draw, hp, hh]

/-- A new path whose handle is occupied is refused, and nothing but the counter moves. -/
theorem sightPath_collides (ht : t.RootedAt root) (collides : t.Collides p) :
    ∃ q : Path, t.sightPath p = (.error (.handleMapped (t.last + 1) q.toText), t.draw.2) := by
  obtain ⟨q, hmem⟩ := collides.occupied
  have hp := ht.coherent.handleGet?_eq_none collides.unseen
  have hh := ht.coherent.pathGet?_iff.mpr hmem
  refine ⟨q, ?_⟩
  rw [sightPath_eq, hp, registerPath_eq, if_neg (Int.not_le.mpr ht.next_pos)]
  simp only [Inodes.draw, hh]

/-- A sighting gives a handle that stands for the path, unless the handle that it draws is
occupied. -/
theorem mem_or_collides (ht : t.RootedAt root) (p : Path) :
    (∃ h, (t.sightPath p).1 = .ok h ∧ (h, p) ∈ (t.sightPath p).2.entries) ∨ t.Collides p := by
  by_cases seen : ∃ h, (h, p) ∈ t.entries
  · obtain ⟨h, hmem⟩ := seen
    rw [ht.sightPath_known hmem]
    exact .inl ⟨h, rfl, hmem⟩
  rw [not_exists] at seen
  by_cases occupied : t.Registered (t.last + 1)
  · exact .inr ⟨seen, occupied⟩
  · have heq := ht.sightPath_new seen occupied
    have hok := congrArg Prod.fst heq
    exact .inl ⟨t.last + 1, hok, ht.coherent.mem_of_sightPath hok⟩

end RootedAt

/-- There are only so many pairs, so that the occupied handles come to an end. -/
theorem exists_ahead (t : Inodes) : ∃ k, t.Ahead k := by
  have ends : ∃ k : Nat, ¬ t.Registered (t.last + 1 + (k : Handle)) := by
    by_contra all
    rw [not_exists] at all
    -- More handles than there are pairs would be occupied.
    have inside : (List.range (t.size + 1)).map (fun i : Nat => t.last + 1 + (i : Handle)) ⊆
        t.paths.keys := by
      intro h hh
      obtain ⟨i, -, rfl⟩ := List.mem_map.mp hh
      obtain ⟨p, hmem⟩ := not_not.mp (all i)
      exact List.mem_map_of_mem hmem
    have apart : ((List.range (t.size + 1)).map fun i : Nat => t.last + 1 + (i : Handle)).Nodup :=
      List.nodup_range.map fun i j hij => Int.ofNat_inj.mp (Int.add_left_cancel hij)
    have hle := (List.subperm_of_subset apart inside).length_le
    rw [List.length_map, List.length_range, OrderedMap.keys, List.length_map] at hle
    exact Nat.not_succ_le_self _ hle
  classical
  exact ⟨Nat.find ends, fun i hi => not_not.mp (Nat.find_min ends hi), Nat.find_spec ends⟩

namespace Ahead

/-- Each handle that is drawn leaves one occupied handle less. -/
theorem draw (ahead : t.Ahead (k + 1)) : t.draw.2.Ahead k := by
  constructor
  · intro i hi
    show t.Registered (t.last + 1 + 1 + (i : Handle))
    rw [add_one_add]
    exact ahead.occupied (i + 1) (Nat.succ_lt_succ hi)
  · show ¬ t.Registered (t.last + 1 + 1 + (k : Handle))
    rw [add_one_add]
    exact ahead.free

theorem collides (ahead : t.Ahead (k + 1)) (unseen : ∀ h, (h, p) ∉ t.entries) : t.Collides p :=
  ⟨unseen, by simpa using ahead.occupied 0 (Nat.succ_pos k)⟩

theorem next_free (ahead : t.Ahead 0) : ¬ t.Registered (t.last + 1) := by
  simpa using ahead.free

end Ahead

end InodeGateway.Inodes
