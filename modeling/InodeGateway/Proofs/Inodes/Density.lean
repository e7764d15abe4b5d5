import InodeGateway.Proofs.Inodes.Coherence

/-!
# Dense tables

As long as handles are only drawn to be registered at once, the counter and the table move together:
the registered handles are the numbers from one up to the counter.  The next handle is then always
free, so that sight of a path cannot collide with anything.

## Main definitions

* `Inodes.Dense` — the handles are the numbers from one up to the counter
* `Inodes.Gains`, `Inodes.Registers` — a path gets the next handle, or has one already
* `Inodes.sightAll` — the table after paths were sighted one after another
* `Inodes.fresh` — the paths among them that have no handle yet

## Main statements

* `Inodes.Dense.sightPath_eq` — a path keeps its handle or gets the next one
* `Inodes.Dense.registers_sightPath` — on sight a path is registered
* `Inodes.Dense.sightPath` — the table stays dense
* `Inodes.Dense.entries_sightAll` — the fresh paths get the next handles, in order
-/

namespace InodeGateway.Inodes

variable {t : Inodes} {h : Handle} {p : Path}

/-- Later on the table has one more pair, of the next handle and a path that had none. -/
structure Gains (t : Inodes) (p : Path) (later : Inodes) : Prop where
  new : ∀ h, (h, p) ∉ t.entries
  pairs : later.entries = t.entries ++ [(t.last + 1, p)]
  table : later = { t with
    paths := t.paths.insert (t.last + 1) p
    handles := t.handles.insert p (t.last + 1)
    last := t.last + 1 }

/-- Later on the path has the handle that it had, or the next one if it had none. -/
inductive Registers (t : Inodes) (p : Path) (later : Inodes) : Prop
  | known {h : Handle} (hp : (h, p) ∈ t.entries) (same : later = t)
  | next (gains : t.Gains p later)

/-- A path that had no handle has the next one. -/
theorem Registers.gains {later : Inodes} (h : t.Registers p later) (new : ∀ k, (k, p) ∉ t.entries) :
    t.Gains p later := by
  cases h with
  | known hp same => exact absurd hp (new _)
  | next gains => exact gains

/-- The handles are the numbers from one up to the counter, in order of registration. -/
structure Dense (t : Inodes) : Prop where
  coherent : t.Coherent
  handles : t.entries.map Prod.fst = (List.range t.size).map fun i : Nat => (i : Handle) + 1
  last : t.last = t.size

namespace Dense

/-- No registered handle is beyond the counter. -/
theorem le_last (ht : t.Dense) (hmem : (h, p) ∈ t.entries) : h ≤ t.last := by
  have hkey : h ∈ t.entries.map Prod.fst := List.mem_map_of_mem hmem
  rw [ht.handles] at hkey
  obtain ⟨i, hi, rfl⟩ := List.mem_map.mp hkey
  rw [ht.last]
  exact Int.add_one_le_of_lt (Int.ofNat_lt.mpr (List.mem_range.mp hi))

/-- The next handle is beyond all registered ones. -/
theorem lt_next (ht : t.Dense) (hmem : (h, p) ∈ t.entries) : h < t.last + 1 :=
  Int.lt_add_one_of_le (ht.le_last hmem)

theorem next_pos (ht : t.Dense) : 0 < t.last + 1 := by
  rw [ht.last]
  exact Int.lt_add_one_of_le (Int.natCast_nonneg t.size)

theorem next_free (ht : t.Dense) : t.paths.get? (t.last + 1) = none := by
  cases hget : t.paths.get? (t.last + 1) with
  | none => rfl
  | some p =>
    have beyond := ht.lt_next (ht.coherent.pathGet?_iff.mp hget)
    exact absurd beyond (Int.lt_irrefl _)

/-- A path keeps its handle or gets the next one; sight of it does not fail. -/
theorem sightPath_eq (ht : t.Dense) (p : Path) :
    t.sightPath p =
      match t.handles.get? p with
      | some h => (.ok h, t)
      | none => (.ok (t.last + 1), t.draw.2.add (t.last + 1) p) := by
  rw [Inodes.sightPath_eq]
  cases hp : t.handles.get? p with
  | some h => rfl
  | none =>
    have free : t.draw.2.paths.get? (t.last + 1) = none := ht.next_free
    have new : t.draw.2.handles.get? p = none := hp
    simp only [registerPath_eq, if_neg (Int.not_le.mpr ht.next_pos), free, new]

/-- A path without a handle gets the next one. -/
theorem sightPath_of_none (ht : t.Dense) (hp : t.handles.get? p = none) :
    t.sightPath p = (.ok (t.last + 1), t.draw.2.add (t.last + 1) p) := by
  rw [ht.sightPath_eq, hp]

/-- What is added under the next handle stands at the end. -/
theorem entries_add_next (ht : t.Dense) (p : Path) :
    (t.draw.2.add (t.last + 1) p).entries = t.entries ++ [(t.last + 1, p)] :=
  entries_add (t := t.draw.2) ht.next_free

/-- On sight a path is registered. -/
theorem registers_sightPath (ht : t.Dense) (p : Path) : t.Registers p (t.sightPath p).2 := by
  cases hp : t.handles.get? p with
  | some h =>
    rw [sightPath_of_some hp]
    exact .known (ht.coherent.handleGet?_iff.mp hp) rfl
  | none =>
    rw [ht.sightPath_of_none hp]
    refine .next ⟨fun h hmem => ?_, ht.entries_add_next p, rfl⟩
    rw [ht.coherent.handleGet?_iff.mpr hmem] at hp
    cases hp

/-- A path without a handle is added under the next one. -/
theorem add (ht : t.Dense) (hp : t.handles.get? p = none) :
    (t.draw.2.add (t.last + 1) p).Dense := by
  have pairs := ht.entries_add_next p
  have size : (t.draw.2.add (t.last + 1) p).size = t.size + 1 := by
    have hlength := congrArg List.length pairs
    rw [List.length_append] at hlength
    exact hlength
  -- The range grows by one number at its end, and so do the table and the counter.
  refine ⟨ht.coherent.draw.add ht.next_pos ht.next_free hp, ?_, ?_⟩
  · rw [pairs, size, List.range_succ, List.map_append, List.map_append, ht.handles, ht.last]
    rfl
  · show t.last + 1 = _
    rw [size, ht.last]
    rfl

theorem sightPath (ht : t.Dense) (p : Path) : (t.sightPath p).2.Dense := by
  rw [ht.sightPath_eq]
  split
  · exact ht
  · next hp => exact ht.add hp

theorem sightPath_ok (ht : t.Dense) (p : Path) : ∃ h, (t.sightPath p).1 = .ok h := by
  rw [ht.sightPath_eq]
  split
  · exact ⟨_, rfl⟩
  · exact ⟨_, rfl⟩

/-- Sight of a spelling fails only if it spells no path. -/
theorem sight_error (ht : t.Dense) {text : String} {r : Refusal}
    (hr : (t.sight text).1 = .error r) : Path.ofText text = .error r := by
  unfold Inodes.sight at hr
  split at hr
  · next htext =>
    rw [htext]
    exact congrArg Except.error (Except.error.inj hr)
  · next q _ =>
    obtain ⟨h, hh⟩ := ht.sightPath_ok q
    rw [hh] at hr
    cases hr

end Dense

/-! ### Many paths -/

/-- The table after paths were sighted one after another. -/
def sightAll (t : Inodes) (ps : List Path) : Inodes := ps.foldl (fun t p => (t.sightPath p).2) t

/-- The paths without a handle, in the order of their first appearance. -/
def fresh (t : Inodes) (ps : List Path) : List Path :=
  (ps.filter fun p => (t.handles.get? p).isNone).eraseDups

theorem entries_prefix_sightAll (t : Inodes) (ps : List Path) :
    t.entries <+: (t.sightAll ps).entries := by
  induction ps generalizing t with
  | nil => exact List.prefix_rfl
  | cons p rest ih => exact (t.entries_prefix_sightPath p).trans (ih _)

theorem fresh_cons_of_some (hp : t.handles.get? p = some h) (ps : List Path) :
    t.fresh (p :: ps) = t.fresh ps := by
  simp [fresh, hp]

/-- A path that got a handle is fresh no more. -/
theorem fresh_cons_of_none (hp : t.handles.get? p = none) (ps : List Path) :
    t.fresh (p :: ps) = p :: (t.draw.2.add (t.last + 1) p).fresh ps := by
  have unseen : ∀ q, ((t.draw.2.add (t.last + 1) p).handles.get? q).isNone =
      ((t.handles.get? q).isNone && !(q == p)) := by
    intro q
    show ((t.handles.insert p (t.last + 1)).get? q).isNone = _
    rw [OrderedMap.get?_insert]
    by_cases hq : p = q
    · simp [hq]
    · simp [hq, Ne.symm hq]
  simp only [fresh, unseen]
  rw [List.filter_cons_of_pos (by simp [hp]), List.eraseDups_cons, List.filter_filter]
  simp only [Bool.and_comm]

namespace Dense

theorem sightAll (ht : t.Dense) (ps : List Path) : (t.sightAll ps).Dense := by
  induction ps generalizing t with
  | nil => exact ht
  | cons p rest ih => exact ih (ht.sightPath p)

/-- Paths without a handle get the next ones, in the order of their first appearance. -/
theorem entries_sightAll (ht : t.Dense) (ps : List Path) :
    (t.sightAll ps).entries =
      t.entries ++ (t.fresh ps).mapIdx fun i p => (t.last + 1 + (i : Handle), p) := by
  induction ps generalizing t with
  | nil => simp [Inodes.sightAll, fresh]
  | cons p rest ih =>
    show ((t.sightPath p).2.sightAll rest).entries = _
    cases hp : t.handles.get? p with
    | some h => rw [sightPath_of_some hp, ih ht, fresh_cons_of_some hp]
    | none =>
      -- The counter has moved by one, as the positions of the later paths have.
      have moved (i : Nat) : (t.draw.2.add (t.last + 1) p).last + 1 + (i : Handle) =
          t.last + 1 + ((i + 1 : Nat) : Handle) := add_one_add (t.last + 1) i
      rw [ht.sightPath_of_none hp, ih (ht.add hp), fresh_cons_of_none hp, ht.entries_add_next,
        List.mapIdx_cons, List.append_assoc]
      simp [moved]

/-- A path that was sighted has a handle. -/
theorem registered_sightAll (ht : t.Dense) {ps : List Path} (hp : p ∈ ps) :
    ∃ h, (h, p) ∈ (t.sightAll ps).entries := by
  induction ps generalizing t with
  | nil => cases hp
  | cons q rest ih =>
    rcases List.mem_cons.mp hp with rfl | hp
    · obtain ⟨h, hh⟩ := ht.sightPath_ok p
      exact ⟨h, ((t.sightPath p).2.entries_prefix_sightAll rest).subset
        (ht.coherent.mem_of_sightPath hh)⟩
    · exact ih (ht.sightPath q) hp

/-- Paths that have handles change nothing. -/
theorem sightAll_of_registered (ht : t.Coherent) {ps : List Path}
    (h : ∀ p ∈ ps, ∃ h, (h, p) ∈ t.entries) : t.sightAll ps = t := by
  induction ps with
  | nil => rfl
  | cons p rest ih =>
    obtain ⟨⟨i, hi⟩, hrest⟩ := List.forall_mem_cons.mp h
    show (t.sightPath p).2.sightAll rest = t
    rw [sightPath_of_some (ht.handleGet?_iff.mpr hi)]
    exact ih hrest

end Dense

end InodeGateway.Inodes
