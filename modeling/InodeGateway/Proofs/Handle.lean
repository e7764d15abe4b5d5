import InodeGateway.Handle
import InodeGateway.Proofs.Text.Numeral
import Mathlib.Algebra.Order.Ring.Int

/-!
# Handles as text

A text is a handle if it spells a number other than zero that fits 64 bits.  What is written for
such a handle is its shortest spelling, and it is read back with any blanks around it.

## Main statements

* `Handle.ofText_eq_ok_iff` — which texts are handles, and which handle each of them is
* `Handle.ofText_toText` — a handle that is written in digits is read back
* `Handle.ofText_exact` — reading accepts what spells a handle, and writing is its inverse
-/

namespace InodeGateway.Handle

variable {h : Int} {text : String}

theorem toText_natCast (n : Nat) : toText n = toString n := rfl

/-- A number is a handle that fits if it is neither zero nor too great. -/
theorem unfit_iff {n : Nat} : n = 0 ∨ greatest < n ↔ ¬ (1 ≤ n ∧ n ≤ 2 ^ 64 - 1) := by
  have range : n = 0 ∨ (18446744073709551615 : Int) < n ↔ ¬ (1 ≤ n ∧ n ≤ 2 ^ 64 - 1) := by omega
  exact range

theorem ofText_eq_ok_iff : ofText text = .ok h ↔
    ∃ n : Nat, Text.Spells text n ∧ (1 ≤ n ∧ n ≤ 2 ^ 64 - 1) ∧ h = n := by
  rw [ofText]
  split
  · next unspelled =>
    simp only [reduceCtorEq, false_iff]
    rintro ⟨n, spells, -⟩
    exact (Text.spells_iff_digits.mp spells).1 unspelled
  · next spelled =>
    have spells := Text.spells_iff_digits.mpr ⟨spelled, rfl⟩
    dsimp only
    split
    · next unfit =>
      rw [unfit_iff] at unfit
      simp only [reduceCtorEq, false_iff]
      rintro ⟨n, other, fits, -⟩
      exact unfit (other.unique spells ▸ fits)
    · next fits =>
      rw [unfit_iff, not_not] at fits
      constructor
      · intro heq
        exact ⟨_, spells, fits, (Except.ok.inj heq).symm⟩
      · rintro ⟨n, other, -, rfl⟩
        rw [other.unique spells]

theorem code_of_ofText {r : Refusal} (hr : ofText text = .error r) : r.code = .invalidArgument := by
  unfold ofText at hr
  grind [Refusal.code]

/-- A handle that fits is read back, whatever blanks stand around it. -/
theorem ofText_margins {before after : String} (blank : Text.AllBlank before.toList)
    (blank' : Text.AllBlank after.toList) (positive : 1 ≤ h) (bounded : h ≤ 2 ^ 64 - 1) :
    ofText (before ++ toText h ++ after) = .ok h := by
  obtain ⟨n, rfl⟩ := Int.eq_ofNat_of_zero_le (Int.le_trans (by decide) positive)
  exact ofText_eq_ok_iff.mpr ⟨n, Text.spells_margins n blank blank', by omega, rfl⟩

theorem ofText_toText (positive : 0 < h) (bounded : h ≤ greatest) : ofText (toText h) = .ok h := by
  have bare : Text.AllBlank "".toList := by simp [Text.AllBlank]
  simpa using ofText_margins bare bare positive bounded

/-- A text is a handle if, apart from blanks around them, it consists of decimal digits, at least
one and perhaps with zeros in front, whose value is positive and has at most 64 bits; it is the
handle of that value, and any other text is an invalid argument.  A handle that fits is read back
from what is written for it, with any blanks around it.  What is written for a handle that was read
has no blanks and no zero in front, and is read as the same handle. -/
theorem ofText_exact :
    (∀ text (h : Int), ofText text = .ok h ↔
      ∃ n : Nat, Text.Spells text n ∧ (1 ≤ n ∧ n ≤ 2 ^ 64 - 1) ∧ h = n) ∧
    (∀ text r, ofText text = .error r → r.code = .invalidArgument) ∧
    (∀ (h : Int) (before after : String), Text.AllBlank before.toList →
      Text.AllBlank after.toList → 1 ≤ h → h ≤ 2 ^ 64 - 1 →
        ofText (before ++ toText h ++ after) = .ok h) ∧
    ∀ text h, ofText text = .ok h → ofText (toText h) = .ok h ∧
      (∀ c ∈ (toText h).toList, Text.isBlank c = false) ∧ (toText h).toList.head? ≠ some '0' := by
  refine ⟨fun text h => ofText_eq_ok_iff, fun text r => code_of_ofText,
    fun h before after => ofText_margins, fun text h hread => ?_⟩
  obtain ⟨n, -, ⟨positive, bounded⟩, rfl⟩ := ofText_eq_ok_iff.mp hread
  have fits : (n : Int) ≤ 18446744073709551615 := by omega
  refine ⟨ofText_toText (by omega) fits, ?_, ?_⟩
  · rw [toText_natCast, Text.toList_toString]
    exact (Text.numeral_toDigits n).firm
  · rw [toText_natCast, Text.toList_toString]
    exact Text.head?_toDigits positive

/-- The greatest handle between a wide blank and a byte order mark, and a small one that is written
at greater length than need be. -/
theorem ofText_padded :
    ofText ("\u3000" ++ toText 18446744073709551615 ++ "\uFEFF") = .ok 18446744073709551615 ∧
      Text.Spells "007" 7 ∧ ofText "007" = .ok 7 ∧ ofText (toText 7) = .ok 7 := by
  have spells : Text.Spells "007" 7 := Text.spells_iff_digits.mpr ⟨by decide, by decide⟩
  have read : ofText "007" = .ok 7 := (ofText_exact.1 _ _).mpr ⟨7, spells, by decide, rfl⟩
  refine ⟨?_, spells, read, (ofText_exact.2.2.2 _ _ read).1⟩
  exact ofText_exact.2.2.1 _ _ _ (by simp [Text.AllBlank]; decide) (by simp [Text.AllBlank]; decide)
    (by decide) (by decide)

end InodeGateway.Handle
