import InodeGateway.Proofs.Memory.Gap
import InodeGateway.Proofs.Memory.Rights
import Mathlib.Algebra.BigOperators.Group.Finset.Basic
import Mathlib.Algebra.GroupWithZero.Nat
import Mathlib.Algebra.Order.Ring.Rat

/-!
# Space by history

How much space the tree in memory says to be in use follows from the deeds that were done with it.
Each object has the size that it was placed with last; one that was never placed, but made by a
session or on the way to another one, has none.

## Main definitions

* `Memory.sizeAt` — the size of what stands at a path
* `Memory.sizeAfter`, `Memory.bytesAfter` — what follows from deeds
* `Memory.Chronicle` — the deeds that were done with a tree of some capacity, while time went on
* `Memory.Tallies` — the sizes in the tree are those that follow from the deeds

## Main statements

* `Memory.Tallies.perform` — each deed keeps the sizes as they follow from the deeds
* `Memory.Chronicle.tallies` — so it is after any deeds
* `Memory.Tallies.space_eq` — the space in use is the sum of the sizes, and the rest is free

## Design notes

Numbers of double precision are added one after another, so that a sum is exact only up to two to
the power 53.  No sum on the way is greater than the last one, as no size is below zero.
-/

namespace InodeGateway

namespace Num

/-- The number as a natural number, if it is whole and not below zero. -/
def toNat : Num → Nat
  | .fin q => q.num.toNat
  | _ => 0

@[simp] theorem toNat_natCast (n : Nat) : (fin n).toNat = n := by simp [toNat]

theorem zero_eq : (0 : Num) = .fin (0 : Nat) := by decide +kernel

section Exact

variable {a b : Nat}

theorem add_natCast (h : a + b ≤ exactLimit) :
    (fin a).add (fin b) = .fin (a + b : Nat) := by
  have kept : ofRat ((a + b : Nat) : Int) = .fin ((a + b : Nat) : Int) := ofRat_intCast h
  rw [add]
  push_cast at kept ⊢
  exact kept

/-- What is left of one number after another, never below zero. -/
theorem max_zero_sub_natCast (ha : a ≤ exactLimit) (hb : b ≤ exactLimit) :
    Num.max 0 ((fin a).sub (fin b)) = .fin (a - b : Nat) := by
  have kept : ofRat ((a - b : Int) : Rat) = .fin ((a - b : Int) : Rat) :=
    ofRat_intCast (by omega)
  rw [sub, neg, add, ← sub_eq_add_neg]
  push_cast at kept
  rw [kept, zero_eq, Num.max]
  congr 1
  rcases Nat.le_total b a with less | more
  · have left : ((0 : Nat) : Rat) ≤ a - b := by
      rw [Nat.cast_zero, sub_nonneg]
      exact_mod_cast less
    rw [if_pos left, Nat.cast_sub less]
  · rw [Nat.sub_eq_zero_of_le more]
    rcases more.eq_or_lt with rfl | more
    · simp
    · rw [if_neg]
      rw [Nat.cast_zero, sub_nonneg, not_le]
      exact_mod_cast more

/-- Whole numbers add up exactly, as long as their sum can be told. -/
theorem foldl_add {sizes : List Num} (whole : ∀ x ∈ sizes, x.IsWhole)
    (h : a + (sizes.map toNat).sum ≤ exactLimit) :
    sizes.foldl add (.fin a) = .fin (a + (sizes.map toNat).sum : Nat) := by
  induction sizes generalizing a with
  | nil => rfl
  | cons x rest ih =>
    obtain ⟨⟨n, rfl⟩, hrest⟩ := List.forall_mem_cons.mp whole
    rw [List.map_cons, toNat_natCast, List.sum_cons, ← Nat.add_assoc] at h ⊢
    rw [List.foldl_cons, add_natCast ((Nat.le_add_right _ _).trans h), ih hrest h]

end Exact

end Num

namespace Memory

variable {m m' : Memory} {d : Deed} {done : List Deed} {p q : Path} {kind : Kind} {size : Num}
  {capacityBytes : Num}

/-! ### What follows from deeds -/

/-- The size that a deed places an object with at a path, if it does.  Only files have one. -/
def Deed.places? (p : Path) : Deed → Option Num
  | .seed text kind size _ =>
    if (Path.ofText text).toOption = some p then some (if kind = .file then size else 0) else none
  | _ => none

/-- The size at a path is the one that was placed there last, and zero if none ever was. -/
def sizeAfter (done : List Deed) (p : Path) : Num :=
  (done.filterMap (Deed.places? p)).getLast?.getD 0

/-- The sum of the sizes at all paths that have a node. -/
def bytesAfter (done : List Deed) (m : Memory) : Nat :=
  ∑ p ∈ m.nodes.keys.toFinset, (sizeAfter done p).toNat

/-- What a deed places has a whole number of bytes. -/
def Deed.Counts : Deed → Prop
  | .seed _ _ size _ => size.IsWhole
  | _ => True

instance (d : Deed) : Decidable d.Counts :=
  match d with
  | .seed _ _ size _ => decidable_of_iff size.isNatural Num.isNatural_iff
  | .openSession | .stat .. | .permits .. | .create .. | .list .. | .space _ | .release _
  | .setPermissions .. | .failOn .. | .clearFailures | .failReleases _ => .isTrue trivial

theorem sizeAfter_concat (done : List Deed) (d : Deed) (p : Path) :
    sizeAfter (done ++ [d]) p = (d.places? p).getD (sizeAfter done p) := by
  rw [sizeAfter, List.filterMap_append, List.getLast?_append]
  cases hd : d.places? p <;> simp [hd, sizeAfter]

theorem Deed.Counts.isWhole (h : d.Counts) (placed : d.places? p = some size) : size.IsWhole := by
  cases d with
  | seed text kind size' owner =>
    rw [Deed.places?] at placed
    split at placed
    · cases placed
      split
      · exact h
      · exact ⟨0, Num.zero_eq⟩
    · cases placed
  | _ => cases placed

/-- Where all sizes that are placed are whole, all that follow are, by induction on the deeds, last
one first. -/
theorem isWhole_sizeAfter (whole : ∀ d ∈ done, d.Counts) (p : Path) :
    (sizeAfter done p).IsWhole := by
  induction done using List.reverseRecOn with
  | nil => exact ⟨0, Num.zero_eq⟩
  | append_singleton done d ih =>
    rw [sizeAfter_concat]
    cases placed : d.places? p with
    | none => exact ih fun d hd => whole d (List.mem_append_left _ hd)
    | some size => exact (whole d (by simp)).isWhole placed

/-! ### What the tree says -/

/-- The size of what stands at a path; nothing has none. -/
def sizeAt (m : Memory) (p : Path) : Num := (m.nodes.get? p).elim 0 Node.sizeBytes

theorem sizeAt_eq_zero (h : m.kindAt? p = none) : m.sizeAt p = 0 := by
  rw [sizeAt, get?_eq_none_iff.mpr h]
  rfl

section Writing

variable (m p q)

theorem sizeAt_insert (kind : Kind) (size : Num) (owner : Owner) :
    (m.insert q kind size owner).sizeAt p = if p = q then size else m.sizeAt p := by
  have linked : ∀ node : Node, (link m.now q node).sizeBytes = node.sizeBytes := by
    intro node
    unfold link
    split <;> rfl
  rw [sizeAt, get?_nodes_insert]
  split
  · rfl
  · split
    · rw [sizeAt]
      cases m.nodes.get? p with
      | none => rfl
      | some node => exact linked node
    · rfl

/-- An empty object that is made where nothing stood changes no size. -/
theorem sizeAt_insert_zero (h : m.kindAt? q = none) (kind : Kind) (owner : Owner) :
    (m.insert q kind 0 owner).sizeAt p = m.sizeAt p := by
  rw [sizeAt_insert]
  split
  · next heq => rw [heq, sizeAt_eq_zero h]
  · rfl

theorem sizeAt_makeDirectories : (m.makeDirectories q).sizeAt p = m.sizeAt p := by
  fun_induction m.makeDirectories q with
  | case1 => rfl
  | case2 q hq => exact sizeAt_insert_zero m p q (kindAt?_eq_none_iff.mpr hq) _ _
  | case3 q hq r _ ih =>
    rw [sizeAt_insert]
    split
    · next heq => rw [heq, sizeAt_eq_zero (kindAt?_eq_none_iff.mpr hq)]
    · exact ih

/-- A placed file has the size that it is given; the directories above it have none. -/
theorem sizeAt_seedPath (kind : Kind) (size : Num) (owner : Option Owner) :
    (m.seedPath q kind size owner).sizeAt p =
      if p = q then (if kind = .file then size else 0) else m.sizeAt p := by
  rw [seedPath]
  cases q.parent? with
  | none => exact sizeAt_insert _ _ _ _ _ _
  | some r =>
    simp only
    rw [sizeAt_insert, sizeAt_makeDirectories]

theorem capacityBytes_insert (kind : Kind) (size : Num) (owner : Owner) :
    (m.insert q kind size owner).capacityBytes = m.capacityBytes := by rw [insert_eq]

theorem capacityBytes_makeDirectories :
    (m.makeDirectories q).capacityBytes = m.capacityBytes := by rw [makeDirectories_eq]

theorem capacityBytes_seedPath (kind : Kind) (size : Num) (owner : Option Owner) :
    (m.seedPath q kind size owner).capacityBytes = m.capacityBytes := by
  rw [seedPath]
  cases q.parent? with
  | none => exact capacityBytes_insert _ _ _ _ _
  | some r => exact (capacityBytes_insert _ _ _ _ _).trans (capacityBytes_makeDirectories m r)

theorem nodup_keys_insert (kind : Kind) (size : Num) (owner : Owner) (hm : m.nodes.keys.Nodup) :
    (m.insert q kind size owner).nodes.keys.Nodup := by
  unfold Memory.insert
  cases q.parent? with
  | none => exact OrderedMap.nodup_keys_insert hm _ _
  | some r =>
    simp only [OrderedMap.keys_modify]
    exact OrderedMap.nodup_keys_insert hm _ _

end Writing

/-! ### The tally of a history -/

/-- The deeds that were done with a tree of this capacity since it was begun with some directories,
while the clock went on. -/
inductive Chronicle (capacityBytes : Num) : List Deed → Memory → Prop
  | begun {owner : Owner} {now : Instant} {texts : List String} {m : Memory}
      (h : (empty owner capacityBytes now).addDirectories texts = .ok m) :
      Chronicle capacityBytes [] m
  | performed {done : List Deed} {m : Memory} (h : Chronicle capacityBytes done m) (d : Deed) :
      Chronicle capacityBytes (done ++ d.done m) (d.perform.answer m).2
  | ticked {done : List Deed} {m : Memory} (h : Chronicle capacityBytes done m) (now : Instant) :
      Chronicle capacityBytes done { m with now := now }

/-- The sizes in the tree are those that follow from the deeds, each counted once. -/
structure Tallies (capacityBytes : Num) (done : List Deed) (m : Memory) : Prop where
  capacity : m.capacityBytes = capacityBytes
  once : m.nodes.keys.Nodup
  sizes : ∀ p, m.sizeAt p = sizeAfter done p

theorem sizeAfter_done (unplaced : d.places? p = none) (done : List Deed) (m : Memory) :
    sizeAfter (done ++ d.done m) p = sizeAfter done p := by
  unfold Deed.done
  split
  · rw [sizeAfter_concat, unplaced, Option.getD_none]
  · rw [List.append_nil]

namespace Tallies

variable (h : Tallies capacityBytes done m)
include h

theorem congr (hnodes : m'.nodes = m.nodes) (hcapacity : m'.capacityBytes = m.capacityBytes) :
    Tallies capacityBytes done m' where
  capacity := hcapacity.trans h.capacity
  once := hnodes ▸ h.once
  sizes p := by
    rw [sizeAt, hnodes]
    exact h.sizes p

/-- An empty object that is made where nothing stood changes no size. -/
theorem insert_zero (hp : m.kindAt? p = none) (kind : Kind) (owner : Owner) :
    Tallies capacityBytes done (m.insert p kind 0 owner) where
  capacity := (capacityBytes_insert m p kind 0 owner).trans h.capacity
  once := nodup_keys_insert m p kind 0 owner h.once
  sizes q := (sizeAt_insert_zero m q p hp kind owner).trans (h.sizes q)

theorem makeDirectories (p : Path) : Tallies capacityBytes done (m.makeDirectories p) where
  capacity := (capacityBytes_makeDirectories m p).trans h.capacity
  once := makeDirectories_nodes (P := fun nodes => nodes.keys.Nodup) nodup_keys_insert p h.once
  sizes q := (sizeAt_makeDirectories m q p).trans (h.sizes q)

theorem addDirectories {texts : List String} (made : m.addDirectories texts = .ok m') :
    Tallies capacityBytes done m' := by
  induction texts generalizing m with
  | nil =>
    cases made
    exact h
  | cons text rest ih =>
    rw [Memory.addDirectories] at made
    split at made
    · next p _ => exact ih (h.makeDirectories p) made
    · cases made

/-- What is placed has its own size from then on; where no path is spelled, nothing is. -/
theorem seed (text : String) (kind : Kind) (size : Num) (owner : Option Owner) :
    Tallies capacityBytes (done ++ (Deed.seed text kind size owner).done m)
      ((Deed.seed text kind size owner).perform.answer m).2 := by
  rw [Deed.done, Deed.perform, Call.answer_map, Memory.seed, Call.answer_of]
  cases htext : Path.ofText text with
  | error r =>
    show Tallies capacityBytes (done ++ []) m
    rwa [List.append_nil]
  | ok q =>
    show Tallies capacityBytes (done ++ [.seed text kind size owner])
      (m.seedPath q kind size owner)
    refine ⟨(capacityBytes_seedPath m q kind size owner).trans h.capacity, ?_, fun p => ?_⟩
    · exact seedPath_nodes (P := fun nodes => nodes.keys.Nodup) nodup_keys_insert q kind size owner
        h.once
    · rw [sizeAt_seedPath, sizeAfter_concat, Deed.places?, htext, h.sizes]
      by_cases hp : p = q
      · simp [hp, Except.toOption]
      · simp [hp, Ne.symm hp, Except.toOption]

/-- What places nothing makes empty objects at most. -/
theorem effect (effect : d.Effect m m')
    (notSeed : ∀ text kind size owner, d ≠ .seed text kind size owner) :
    Tallies capacityBytes done m' := by
  cases effect with
  | made s text kind admitted => exact h.insert_zero (admits_ok admitted).1 kind m.owner
  | placed _ kind size owner => exact absurd rfl (notSeed _ kind size owner)
  | aside | granted | wanted | cleared | reluctant => exact h.congr rfl rfl

/-- What places nothing changes no size. -/
theorem unplaced (notSeed : ∀ text kind size owner, d ≠ .seed text kind size owner) :
    Tallies capacityBytes (done ++ d.done m) (d.perform.answer m).2 := by
  have none : ∀ p, d.places? p = none := by
    cases d with
    | seed text kind size owner => exact absurd rfl (notSeed text kind size owner)
    | _ => exact fun _ => rfl
  obtain ⟨capacity, once, sizes⟩ := h.effect (d.effect m) notSeed
  exact ⟨capacity, once, fun p => (sizes p).trans (sizeAfter_done (none p) done m).symm⟩

/-- Each deed keeps the tally. -/
theorem perform (d : Deed) :
    Tallies capacityBytes (done ++ d.done m) (d.perform.answer m).2 := by
  cases d with
  | seed text kind size owner => exact h.seed text kind size owner
  | _ => exact h.unplaced fun _ _ _ _ => Deed.noConfusion

section Whole

variable (whole : ∀ d ∈ done, d.Counts) (inRange : bytesAfter done m ≤ Num.exactLimit)
include whole inRange

/-- The sizes add up to what follows from the deeds. -/
theorem usedBytes_eq : m.usedBytes = .fin (bytesAfter done m) := by
  have told : m.nodes.values.map Node.sizeBytes = m.nodes.keys.map (sizeAfter done) := by
    rw [OrderedMap.values, OrderedMap.keys, List.map_map, List.map_map]
    refine List.map_congr_left fun e he => ?_
    have stands : m.nodes.get? e.1 = some e.2 := OrderedMap.get?_of_mem h.once he
    show e.2.sizeBytes = sizeAfter done e.1
    rw [← h.sizes, sizeAt, stands]
    rfl
  have sum : bytesAfter done m = ((m.nodes.keys.map (sizeAfter done)).map Num.toNat).sum := by
    rw [bytesAfter, List.sum_toFinset _ h.once, List.map_map]
    rfl
  have sizes : ∀ x ∈ m.nodes.keys.map (sizeAfter done), x.IsWhole := by
    intro x hx
    obtain ⟨p, -, rfl⟩ := List.mem_map.mp hx
    exact isWhole_sizeAfter whole p
  rw [sum] at inRange ⊢
  rw [usedBytes, ← List.foldl_map, told, Num.zero_eq, Num.foldl_add sizes (by rwa [Nat.zero_add]),
    Nat.zero_add]

/-- What is not in use is free. -/
theorem space_eq {total : Nat} (small : total ≤ Num.exactLimit)
    (capacity : capacityBytes = .fin total) :
    m.space = ⟨.fin total, .fin (total - bytesAfter done m : Nat)⟩ := by
  rw [space, h.capacity, h.usedBytes_eq whole inRange, capacity,
    Num.max_zero_sub_natCast small inRange]

end Whole

end Tallies

theorem Chronicle.tallies (h : Chronicle capacityBytes done m) : Tallies capacityBytes done m := by
  induction h with
  | @begun owner now texts m h =>
    have bare : Tallies capacityBytes [] ({ owner, capacityBytes, now } : Memory) :=
      ⟨rfl, List.nodup_nil, fun _ => rfl⟩
    exact (bare.insert_zero rfl .directory owner).addDirectories h
  | performed _ d ih => exact ih.perform d
  | ticked _ now ih => exact ih.congr rfl rfl

/-- Objects without a size do not count: as long as none is gone, the sum is the same. -/
theorem bytesAfter_eq (before : Tallies capacityBytes done m)
    (stay : ∀ p, m.kindAt? p ≠ none → m'.kindAt? p ≠ none) :
    bytesAfter done m' = bytesAfter done m := by
  have standing : ∀ (m : Memory) p, p ∈ m.nodes.keys.toFinset ↔ m.kindAt? p ≠ none := by
    intro m p
    rw [List.mem_toFinset, ← not_iff_not, ← OrderedMap.get?_eq_none_iff, get?_eq_none_iff,
      not_not]
  refine (Finset.sum_subset (fun p hp => ?_) fun p _ hp => ?_).symm
  · rw [standing] at hp ⊢
    exact stay p hp
  · rw [standing, not_not] at hp
    rw [← before.sizes, sizeAt_eq_zero hp, Num.zero_eq, Num.toNat_natCast]

end Memory

end InodeGateway
