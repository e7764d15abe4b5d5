import InodeGateway.Handle
import Mathlib.Algebra.BigOperators.Ring.Finset
import Mathlib.Tactic.NormNum
import Mathlib.Tactic.Ring

/-!
# Handles as bytes

On the wire a handle is the digits of a number to the base 256, the most significant first.  Rows of
bytes of one length and the numbers below a power of 256 correspond to each other, and the order of
the rows, byte by byte, is that of the numbers.  Of the rows of eight bytes only the one without a
byte other than zero stands for no handle.

## Main statements

* `Handle.bytes_value`, `Handle.value_bytes` — rows of bytes and numbers correspond to each other
* `Handle.value_lt_value_iff` — the order of rows is that of numbers
* `Handle.wire_bijective` — the handles of 64 bits and the rows of eight bytes, not all zero
-/

namespace InodeGateway.Handle

variable {bs cs wire wire' : List UInt8} {count n : Nat} {h : Int}

section Rows

theorem value_append_singleton (bs : List UInt8) (b : UInt8) :
    value (bs ++ [b]) = 256 * value bs + b.toNat := by
  simp [value]

/-- The first byte counts as many powers of 256 as bytes follow it. -/
theorem value_cons (b : UInt8) (bs : List UInt8) :
    value (b :: bs) = b.toNat * 256 ^ bs.length + value bs := by
  induction bs using List.reverseRecOn with
  | nil => simp [value]
  | append_singleton bs c ih =>
    rw [← List.cons_append, value_append_singleton, ih, value_append_singleton, List.length_append,
      List.length_singleton]
    ring

theorem value_lt (bs : List UInt8) : value bs < 256 ^ bs.length := by
  induction bs with
  | nil => simp [value]
  | cons b bs ih =>
    have low : b.toNat + 1 ≤ 256 := b.toNat_lt
    calc value (b :: bs) = b.toNat * 256 ^ bs.length + value bs := value_cons b bs
      _ < (b.toNat + 1) * 256 ^ bs.length := by rw [Nat.succ_mul]; omega
      _ ≤ 256 * 256 ^ bs.length := Nat.mul_le_mul_right _ low
      _ = 256 ^ (b :: bs).length := by rw [List.length_cons, Nat.pow_succ']

/-- The value of bytes is the sum of each byte times the power of 256 of its place. -/
theorem value_eq_sum (bs : List UInt8) :
    value bs = ∑ i ∈ Finset.range bs.length,
      (bs.getD i 0).toNat * 256 ^ (bs.length - 1 - i) := by
  induction bs with
  | nil => rfl
  | cons b bs ih =>
    rw [value_cons, List.length_cons, Finset.sum_range_succ', ih, Nat.add_comm]
    simp only [List.getD_cons_succ, List.getD_cons_zero, Nat.add_sub_cancel, Nat.sub_zero]
    -- Each byte but the first stands one place further on.
    refine congrArg (· + _) (Finset.sum_congr rfl fun i _ => ?_)
    rw [Nat.sub_sub, Nat.add_comm 1 i]

theorem value_eq_zero_iff : value bs = 0 ↔ ∀ b ∈ bs, b = 0 := by
  induction bs with
  | nil => simp [value]
  | cons b bs ih =>
    rw [value_cons, Nat.add_eq_zero_iff, ih, List.forall_mem_cons, Nat.mul_eq_zero,
      or_iff_left (by positivity), ← UInt8.toNat_inj]
    rfl

@[simp] theorem length_bytes (count n : Nat) : (bytes count n).length = count := by
  induction count generalizing n with
  | zero => rfl
  | succ count ih => simp [bytes, ih]

theorem value_bytes (fits : n < 256 ^ count) : value (bytes count n) = n := by
  induction count generalizing n with
  | zero =>
    obtain rfl : n = 0 := by simpa using fits
    rfl
  | succ count ih =>
    have upper : n / 256 < 256 ^ count := Nat.div_lt_of_lt_mul (by rwa [← Nat.pow_succ'])
    rw [bytes, value_append_singleton, ih upper, UInt8.toNat_ofNat']
    omega

theorem bytes_value (bs : List UInt8) : bytes bs.length (value bs) = bs := by
  induction bs using List.reverseRecOn with
  | nil => rfl
  | append_singleton bs b ih =>
    have low : b.toNat < 256 := b.toNat_lt
    have upper : (256 * value bs + b.toNat) / 256 = value bs := by omega
    have last : UInt8.ofNat ((256 * value bs + b.toNat) % 256) = b := by
      rw [Nat.mul_add_mod, Nat.mod_eq_of_lt low, UInt8.ofNat_toNat]
    rw [List.length_append, List.length_singleton, value_append_singleton, bytes, upper, ih, last]

/-- Between rows of one length, the first byte that differs decides about the value. -/
theorem value_lt_value_iff (same : bs.length = cs.length) : value bs < value cs ↔ bs < cs := by
  induction bs generalizing cs with
  | nil =>
    obtain rfl : cs = [] := List.length_eq_zero_iff.mp same.symm
    simp
  | cons b bs ih =>
    obtain _ | ⟨c, cs⟩ := cs
    · cases same
    · have rest : bs.length = cs.length := Nat.succ.inj same
      have below := value_lt bs
      have below' := value_lt cs
      rw [List.cons_lt_cons_iff, ← ih rest, value_cons, value_cons, ← rest, UInt8.lt_iff_toNat_lt,
        ← UInt8.toNat_inj]
      rw [← rest] at below'
      -- What follows the first bytes is less than one unit of their place.
      rcases Nat.lt_trichotomy b.toNat c.toNat with less | equal | greater
      · have unit := Nat.mul_le_mul_right (256 ^ bs.length) less
        rw [Nat.succ_mul] at unit
        exact ⟨fun _ => .inl less, fun _ => by omega⟩
      · simp [equal]
      · have unit := Nat.mul_le_mul_right (256 ^ bs.length) greater
        rw [Nat.succ_mul] at unit
        exact ⟨fun _ => by omega, fun _ => by omega⟩

end Rows

theorem outOfRange_iff : h ≤ 0 ∨ greatest < h ↔ ¬ (1 ≤ h ∧ h ≤ 2 ^ 64 - 1) := by
  have range : ∀ h : Int, h ≤ 0 ∨ 18446744073709551615 < h ↔ ¬ (1 ≤ h ∧ h ≤ 2 ^ 64 - 1) := by
    intro h
    omega
  exact range h

theorem toWire_eq_ok_iff : toWire h = .ok wire ↔
    (1 ≤ h ∧ h ≤ 2 ^ 64 - 1) ∧ wire = bytes wireLength h.toNat := by
  rw [toWire]
  split
  · next out =>
    rw [outOfRange_iff] at out
    simp only [reduceCtorEq, out, false_and]
  · next fits =>
    rw [outOfRange_iff, not_not] at fits
    rw [Except.ok.injEq, and_iff_right fits, eq_comm]

theorem ofWire_eq_ok_iff : ofWire wire = .ok h ↔
    (wire.length = wireLength ∧ ∃ b ∈ wire, b ≠ 0) ∧ h = value wire := by
  have nonzero : (∃ b ∈ wire, b ≠ 0) ↔ value wire ≠ 0 := by
    rw [Ne, value_eq_zero_iff]
    simp
  rw [nonzero, ofWire]
  split
  · next hlength => simp [hlength]
  · split
    · next hzero => simp [hzero]
    · next hlength hzero => simp_all [eq_comm]

/-- The wire form of a handle stands for it, and nothing else does. -/
theorem ofWire_eq_ok_iff_toWire : ofWire wire = .ok h ↔ toWire h = .ok wire := by
  rw [ofWire_eq_ok_iff, toWire_eq_ok_iff]
  constructor
  · rintro ⟨⟨hlength, b, hb, hne⟩, rfl⟩
    have below : value wire < 2 ^ 64 := by simpa [hlength, wireLength] using value_lt wire
    have nonzero : value wire ≠ 0 := fun h => hne (value_eq_zero_iff.mp h b hb)
    refine ⟨by omega, ?_⟩
    rw [Int.toNat_natCast, ← hlength, bytes_value]
  · rintro ⟨⟨positive, bounded⟩, rfl⟩
    have fits : h.toNat < 2 ^ 64 := by omega
    have hvalue : value (bytes wireLength h.toNat) = h.toNat := value_bytes fits
    refine ⟨⟨length_bytes _ _, ?_⟩, by rw [hvalue]; omega⟩
    by_contra hzero
    push Not at hzero
    have zero := value_eq_zero_iff.mpr hzero
    omega

theorem code_of_toWire {r : Refusal} (hr : toWire h = .error r) : r.code = .invalidArgument := by
  unfold toWire at hr
  grind [Refusal.code]

theorem code_of_ofWire {r : Refusal} (hr : ofWire wire = .error r) : r.code = .invalidArgument := by
  unfold ofWire at hr
  grind [Refusal.code]

/-- The positive handles of at most 64 bits have as their wire forms the rows of eight bytes that
are not all zero: each one such row, which spells the number with its most significant byte first,
and no two the same.  Rows are in the order of their handles.  What has no counterpart is an invalid
argument. -/
theorem wire_bijective :
    (∀ h : Int, (∃ wire, toWire h = .ok wire) ↔ 1 ≤ h ∧ h ≤ 2 ^ 64 - 1) ∧
    (∀ (h : Int) wire, toWire h = .ok wire → wire.length = 8 ∧
      h = ∑ i ∈ Finset.range 8, ((wire.getD i 0).toNat : Int) * 256 ^ (7 - i) ∧
      ofWire wire = .ok h) ∧
    (∀ wire, (∃ h, ofWire wire = .ok h) ↔ wire.length = 8 ∧ ∃ b ∈ wire, b ≠ 0) ∧
    (∀ wire h, ofWire wire = .ok h → toWire h = .ok wire) ∧
    (∀ h r, toWire h = .error r → r.code = .invalidArgument) ∧
    (∀ wire r, ofWire wire = .error r → r.code = .invalidArgument) ∧
    ∀ (h h' : Int) wire wire', toWire h = .ok wire → toWire h' = .ok wire' →
      (wire < wire' ↔ h < h') := by
  refine ⟨fun h => ?_, fun h wire hwire => ?_, fun wire => ?_, fun wire h => ?_, fun h r => ?_,
    fun wire r => ?_, fun h h' wire wire' hwire hwire' => ?_⟩
  · simp only [toWire_eq_ok_iff, exists_and_left, exists_eq, and_true]
  · have back := ofWire_eq_ok_iff_toWire.mpr hwire
    obtain ⟨⟨hlength, -⟩, hvalue⟩ := ofWire_eq_ok_iff.mp back
    have sum := value_eq_sum wire
    rw [hlength, wireLength] at sum
    refine ⟨hlength, ?_, back⟩
    rw [hvalue, sum]
    push_cast
    rfl
  · simp only [ofWire_eq_ok_iff, exists_and_left, exists_eq, and_true]
    rfl
  · exact ofWire_eq_ok_iff_toWire.mp
  · exact code_of_toWire
  · exact code_of_ofWire
  · obtain ⟨⟨hlength, -⟩, rfl⟩ := ofWire_eq_ok_iff.mp (ofWire_eq_ok_iff_toWire.mpr hwire)
    obtain ⟨⟨hlength', -⟩, rfl⟩ := ofWire_eq_ok_iff.mp (ofWire_eq_ok_iff_toWire.mpr hwire')
    rw [← value_lt_value_iff (hlength.trans hlength'.symm), Int.ofNat_lt]

/-- The two bytes of a number above 255 stand at the end, the greater one first. -/
theorem wire_of_two_bytes :
    toWire 258 = .ok [0, 0, 0, 0, 0, 0, 1, 2] ∧ ofWire [0, 0, 0, 0, 0, 0, 1, 2] = .ok 258 ∧
      ∃ wire, toWire (2 ^ 64 - 1) = .ok wire ∧ [0, 0, 0, 0, 0, 0, 1, 2] < wire := by
  have small : toWire 258 = .ok [0, 0, 0, 0, 0, 0, 1, 2] := by decide
  obtain ⟨wire, great⟩ := (wire_bijective.1 (2 ^ 64 - 1)).mpr (by decide)
  exact ⟨small, (wire_bijective.2.1 _ _ small).2.2, wire, great,
    (wire_bijective.2.2.2.2.2.2 _ _ _ _ small great).mpr (by decide)⟩

end InodeGateway.Handle
