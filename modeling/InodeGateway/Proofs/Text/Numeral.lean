import InodeGateway.Proofs.Text.Margins
import Mathlib.Data.List.Induction

/-!
# Numerals

A numeral is a row of decimal digits; zeros may stand in front.  People write it with blanks around
it, and a text that is written so spells the number of the numeral.  Trimming finds the numeral
again, so that a text spells one number at most.

## Main definitions

* `Text.Numeral` — a row of digits, and the number it stands for
* `Text.Spells` — a text that spells a number

## Main statements

* `Text.numeral_iff` — a row of digits stands for what its digits add up to
* `Text.spells_iff` — a text spells the number of the numeral that trimming leaves
* `Text.numeral_toDigits`, `Text.head?_toDigits` — the digits of a number are a numeral for it, and
  do not begin with a zero
-/

namespace InodeGateway.Text

variable {cs : List Char} {text : String} {c : Char} {n n' d : Nat}

section Digits

/-- A row of decimal digits, and the number it stands for. -/
inductive Numeral : List Char → Nat → Prop
  | single {d : Nat} (h : d < 10) : Numeral [d.digitChar] d
  | append {cs : List Char} {n d : Nat} (front : Numeral cs n) (h : d < 10) :
    Numeral (cs ++ [d.digitChar]) (10 * n + d)

theorem toNat_of_isDigit (h : c.isDigit) : 48 ≤ c.toNat ∧ c.toNat ≤ 57 := by
  simpa [Char.isDigit, UInt32.le_iff_toNat_le] using h

theorem not_isBlank_of_isDigit (h : c.isDigit) : isBlank c = false := by
  have range := toNat_of_isDigit h
  simp only [isBlank, Bool.or_eq_false_iff, Bool.and_eq_false_iff, decide_eq_false_iff_not,
    beq_eq_false_iff_ne]
  omega

theorem exists_digit (h : c.isDigit) : ∃ d < 10, d.digitChar = c := by
  have range := toNat_of_isDigit h
  have small : c.toNat - 48 < 10 := by omega
  refine ⟨c.toNat - 48, small, Char.toNat_inj.mp ?_⟩
  rw [Nat.toNat_digitChar_of_lt_ten small]
  omega

theorem ofDigitChars_append_digit (cs : List Char) (h : d < 10) :
    Nat.ofDigitChars 10 (cs ++ [d.digitChar]) 0 = 10 * Nat.ofDigitChars 10 cs 0 + d := by
  rw [Nat.ofDigitChars_append, Nat.ofDigitChars_cons_digitChar_of_lt_ten h, Nat.ofDigitChars_nil]

/-- A numeral is a row of at least one digit, and it stands for what its digits add up to. -/
theorem numeral_iff :
    Numeral cs n ↔ (cs ≠ [] ∧ ∀ c ∈ cs, c.isDigit) ∧ Nat.ofDigitChars 10 cs 0 = n := by
  constructor
  · intro h
    induction h with
    | @single d hd =>
      have digit : d.digitChar.isDigit := by simpa [Nat.isDigit_digitChar] using hd
      exact ⟨⟨List.cons_ne_nil _ _, List.forall_mem_singleton.mpr digit⟩,
        by simpa using ofDigitChars_append_digit [] hd⟩
    | @append cs n d _ hd ih =>
      obtain ⟨⟨hne, digits⟩, rfl⟩ := ih
      have digit : d.digitChar.isDigit := by simpa [Nat.isDigit_digitChar] using hd
      refine ⟨⟨List.concat_ne_nil _ _, ?_⟩, ofDigitChars_append_digit cs hd⟩
      exact List.forall_mem_append.mpr ⟨digits, List.forall_mem_singleton.mpr digit⟩
  · rintro ⟨⟨hne, digits⟩, rfl⟩
    induction cs using List.reverseRecOn with
    | nil => exact absurd rfl hne
    | append_singleton cs c ih =>
      obtain ⟨front, last⟩ := List.forall_mem_append.mp digits
      obtain ⟨d, hd, rfl⟩ := exists_digit (last c (List.mem_singleton_self c))
      rw [ofDigitChars_append_digit cs hd]
      cases cs with
      | nil => simpa using Numeral.single hd
      | cons c cs => exact (ih (List.cons_ne_nil c cs) front).append hd

theorem Numeral.firm (h : Numeral cs n) : ∀ c ∈ cs, isBlank c = false :=
  fun c hc => not_isBlank_of_isDigit ((numeral_iff.mp h).1.2 c hc)

theorem Numeral.unique (h : Numeral cs n) (h' : Numeral cs n') : n = n' :=
  (numeral_iff.mp h).2.symm.trans (numeral_iff.mp h').2

theorem toDigits_ne_nil (n : Nat) : Nat.toDigits 10 n ≠ [] := by
  rw [Nat.toDigits_eq_if (by decide)]
  split
  · exact List.cons_ne_nil _ _
  · exact List.concat_ne_nil _ _

theorem numeral_toDigits (n : Nat) : Numeral (Nat.toDigits 10 n) n :=
  numeral_iff.mpr ⟨⟨toDigits_ne_nil n,
    fun _ hc => Nat.isDigit_of_mem_toDigits (by decide) (by decide) hc⟩,
    Nat.ofDigitChars_ten_toDigits⟩

/-- No zeros stand in front of the digits of a number other than zero. -/
theorem head?_toDigits (h : 0 < n) : (Nat.toDigits 10 n).head? ≠ some '0' := by
  induction n using Nat.base_induction 10 (by decide) with
  | single n hn =>
    rw [Nat.toDigits_of_lt_base hn]
    intro hzero
    have same : n.digitChar.toNat = 48 := congrArg Char.toNat (Option.some.inj hzero)
    rw [Nat.toNat_digitChar_of_lt_ten hn] at same
    omega
  | digit n d hd hn ih =>
    obtain ⟨c, cs, hcs⟩ := List.exists_cons_of_ne_nil (toDigits_ne_nil n)
    rw [← Nat.toDigits_append_toDigits (by decide) hn hd, hcs, List.cons_append, List.head?_cons]
    rw [hcs, List.head?_cons] at ih
    exact ih hn

end Digits

section Spelling

/-- A text spells the number of a numeral that stands in it with nothing but blanks around. -/
def Spells (text : String) (n : Nat) : Prop :=
  ∃ before digits after, text.toList = before ++ digits ++ after ∧
    AllBlank before ∧ AllBlank after ∧ Numeral digits n

/-- A text spells the number of the numeral that trimming leaves of it. -/
theorem spells_iff : Spells text n ↔ Numeral (trimList text.toList) n := by
  constructor
  · rintro ⟨before, digits, after, htext, blank, blank', numeral⟩
    rwa [htext, trimList_margins blank blank', trimList_of_firm numeral.firm]
  · intro numeral
    obtain ⟨before, after, blank, blank', htext⟩ := exists_margins text.toList
    exact ⟨before, _, after, htext, blank, blank', numeral⟩

/-- The same, as it is looked at: something is left, all of it digits, which add up to the
number. -/
theorem spells_iff_digits : Spells text n ↔
    ¬ (trimList text.toList = [] ∨ ¬ (trimList text.toList).all Char.isDigit) ∧
      Nat.ofDigitChars 10 (trimList text.toList) 0 = n := by
  rw [spells_iff, numeral_iff, not_or, not_not, List.all_eq_true]

theorem toList_toString (n : Nat) : (toString n).toList = Nat.toDigits 10 n := Nat.toList_repr

/-- What is written for a number spells it, whatever blanks stand around it. -/
theorem spells_margins (n : Nat) {before after : String} (blank : AllBlank before.toList)
    (blank' : AllBlank after.toList) : Spells (before ++ toString n ++ after) n :=
  ⟨before.toList, Nat.toDigits 10 n, after.toList, by
    rw [String.toList_append, String.toList_append, toList_toString], blank, blank',
    numeral_toDigits n⟩

theorem spells_toString (n : Nat) : Spells (toString n) n := by
  have bare : AllBlank "".toList := by simp [AllBlank]
  simpa using spells_margins n bare bare

/-- A text that spells a number has nothing in it but blanks and digits. -/
theorem Spells.blank_or_digit (h : Spells text n) (hc : c ∈ text.toList) :
    isBlank c ∨ c.isDigit := by
  obtain ⟨before, digits, after, htext, blank, blank', numeral⟩ := h
  rw [htext, List.mem_append, List.mem_append] at hc
  rcases hc with (hc | hc) | hc
  · exact .inl (blank c hc)
  · exact .inr ((numeral_iff.mp numeral).1.2 c hc)
  · exact .inl (blank' c hc)

theorem Spells.unique (h : Spells text n) (h' : Spells text n') : n = n' :=
  (spells_iff.mp h).unique (spells_iff.mp h')

end Spelling

end InodeGateway.Text
