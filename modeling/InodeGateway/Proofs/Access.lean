import InodeGateway.Access
import InodeGateway.Proofs.World.Triple
import Mathlib.Data.Nat.Bitwise

/-!
# What a mask is answered

A mask asks for some of the rights of an owner.  It is answered with bits: those of the rights that
it asks for and that are granted; where it asks for writing and that is granted, reading comes
along.

## Main definitions

* `Mode.Has` — the bit of a right
* `Access.Answers` — the bits that a mask is answered

## Main statements

* `Access.Answers.subset`, `Access.Answers.mono` — the answer is part of the mask, and grows with it
* `Access.probe_granted` — what is answered where the backend tells the rights
* `Access.probe_refused` — what is answered where it does not tell them
-/

namespace InodeGateway

theorem Num.ofNat_eq {n : Nat} (hn : n ≤ exactLimit) : Num.ofNat n = .fin n := by
  rw [ofNat, ofInt, ofRat_intCast (by rwa [Int.natAbs_natCast]), Rat.intCast_natCast]

theorem Num.low32_natCast {n : Nat} (hn : n < 0x100000000) : (Num.fin n).low32 = n := by
  have whole : truncate (n : Rat) = n := by
    rw [truncate, Rat.num_natCast, Rat.den_natCast]
    exact Int.tdiv_one _
  rw [low32, whole, Int.emod_eq_of_lt (Int.natCast_nonneg n) (by exact_mod_cast hn),
    Int.toNat_natCast]

namespace Mode

variable {mode mode' : Nat} {right : Right}

/-- The bit of a right is set. -/
def Has (mode : Nat) (right : Right) : Prop := mode &&& bit right ≠ 0

instance (mode : Nat) (right : Right) : Decidable (Has mode right) :=
  inferInstanceAs (Decidable (_ ≠ _))

/-- The place of the bit of a right. -/
def place : Right → Nat
  | .read => 8
  | .write => 7
  | .execute => 6

theorem bit_eq_two_pow (right : Right) : bit right = 2 ^ place right := by
  cases right <;> rfl

theorem has_iff_testBit : Has mode right ↔ mode.testBit (place right) = true := by
  rw [Has, bit_eq_two_pow, Nat.and_two_pow]
  cases mode.testBit (place right) <;> simp

/-- What is set in a part of a mode is set in the mode. -/
theorem Has.mono (h : Has mode right) (part : mode &&& mode' = mode) : Has mode' right := by
  rw [has_iff_testBit, ← part, Nat.testBit_and, Bool.and_eq_true] at h
  exact has_iff_testBit.mpr h.2

/-- The owner's bits are those of the rights. -/
theorem exists_place {i : Nat} (h : user.testBit i = true) : ∃ right, i = place right := by
  have small : i < 9 :=
    (Nat.pow_lt_pow_iff_right (by decide)).mp (Nat.lt_of_le_of_lt (Nat.ge_two_pow_of_testBit h)
      (show user < 2 ^ 9 by decide))
  revert h
  match i, small with
  | 6, _ => exact fun _ => ⟨.execute, rfl⟩
  | 7, _ => exact fun _ => ⟨.write, rfl⟩
  | 8, _ => exact fun _ => ⟨.read, rfl⟩
  | 0, _ | 1, _ | 2, _ | 3, _ | 4, _ | 5, _ => exact fun h => absurd h (by decide)

/-- Owner's bits are part of a mode if those of each right are. -/
theorem part_of_has (owned : mode ||| user = user) (h : ∀ right, Has mode right → Has mode' right) :
    mode &&& mode' = mode := by
  refine Nat.eq_of_testBit_eq fun i => ?_
  rw [Nat.testBit_and]
  cases hi : mode.testBit i with
  | false => rfl
  | true =>
    have hmem : user.testBit i = true := by
      rw [← owned, Nat.testBit_or, hi, Bool.true_or]
    obtain ⟨right, rfl⟩ := exists_place hmem
    rw [has_iff_testBit.mp (h right (has_iff_testBit.mpr hi))]
    rfl

theorem has_and_user : Has (mode &&& user) right ↔ Has mode right := by
  have owned : user.testBit (place right) = true := by
    cases right <;> decide
  rw [has_iff_testBit, has_iff_testBit, Nat.testBit_and, owned, Bool.and_true]

/-- A mode has one of the owner's bits if it has that of some right. -/
theorem and_user_ne_zero : mode &&& user ≠ 0 ↔ ∃ right, Has mode right := by
  constructor
  · intro h
    obtain ⟨i, hi⟩ := Nat.exists_testBit_of_ne_zero h
    rw [Nat.testBit_and, Bool.and_eq_true] at hi
    obtain ⟨right, rfl⟩ := exists_place hi.2
    exact ⟨right, has_iff_testBit.mpr hi.1⟩
  · rintro ⟨right, hright⟩ hzero
    have unset : ¬ Has 0 right := fun h => h (Nat.zero_and _)
    exact unset (hzero ▸ has_and_user.mpr hright)

/-- The rights that are asked for are those whose bits are set. -/
theorem asks_user (hmode : mode ≤ greatest) (right : Right) :
    asks (Num.ofNat ((Num.fin mode).low32 &&& user)) right = decide (Has mode right) := by
  have small : mode < 0x100000000 := Nat.lt_of_le_of_lt hmode (by decide)
  have masked : mode &&& user < 0x100000000 := Nat.lt_of_le_of_lt Nat.and_le_left small
  rw [asks, Num.low32_natCast small, Num.ofNat_eq (Nat.le_trans (Nat.le_of_lt masked) (by decide)),
    Num.low32_natCast masked, Bool.eq_iff_iff, bne_iff_ne, decide_eq_true_iff]
  exact has_and_user

end Mode

namespace Access

open Mode (Has)

/-- The bits that a mask is answered, given the rights. -/
structure Answers (rights : Right → Bool) (mask bits : Nat) : Prop where
  execute : Has bits .execute ↔ Has mask .execute ∧ rights .execute = true
  write : Has bits .write ↔ Has mask .write ∧ rights .write = true
  /-- Reading is granted, or comes along with writing. -/
  read : Has bits .read ↔
    Has mask .read ∧ (rights .read = true ∨ Has mask .write ∧ rights .write = true)
  /-- There is no other bit. -/
  owned : bits ||| Mode.user = Mode.user

namespace Answers

variable {rights : Right → Bool} {mask mask' bits bits' : Nat}

/-- No bit is answered that was not asked for. -/
theorem subset (h : Answers rights mask bits) : bits &&& mask = bits := by
  refine Mode.part_of_has h.owned fun right hright => ?_
  cases right with
  | read => exact (h.read.mp hright).1
  | write => exact (h.write.mp hright).1
  | execute => exact (h.execute.mp hright).1

/-- Who asks for more is answered more. -/
theorem mono (h : Answers rights mask bits) (h' : Answers rights mask' bits')
    (part : mask &&& mask' = mask) : bits &&& bits' = bits := by
  refine Mode.part_of_has h.owned fun right hright => ?_
  cases right with
  | read =>
    obtain ⟨asked, granted⟩ := h.read.mp hright
    exact h'.read.mpr ⟨asked.mono part, granted.imp_right fun ⟨hw, hr⟩ => ⟨hw.mono part, hr⟩⟩
  | write =>
    obtain ⟨asked, granted⟩ := h.write.mp hright
    exact h'.write.mpr ⟨asked.mono part, granted⟩
  | execute =>
    obtain ⟨asked, granted⟩ := h.execute.mp hright
    exact h'.execute.mpr ⟨asked.mono part, granted⟩

/-- Where nothing is granted, no bit is answered. -/
theorem none (mask : Nat) : Answers (fun _ => false) mask 0 := by
  have unset : ∀ right, ¬ Has 0 right := fun right h => h (Nat.zero_and _)
  refine ⟨?_, ?_, ?_, Nat.zero_or _⟩ <;> simp [unset]

/-- The rights leave no choice. -/
theorem unique (h : Answers rights mask bits) (h' : Answers rights mask bits') : bits' = bits := by
  have below := h.mono h' (Nat.and_self mask)
  have above := h'.mono h (Nat.and_self mask)
  rw [← above, Nat.and_comm, below]

end Answers

/-- The bits of the rights that were granted are theirs. -/
theorem has_granted (execute write read : Bool) :
    (Has (granted execute write read) .execute ↔ execute = true) ∧
      (Has (granted execute write read) .write ↔ write = true) ∧
      (Has (granted execute write read) .read ↔ read = true) ∧
      granted execute write read ||| Mode.user = Mode.user := by
  cases execute <;> cases write <;> cases read <;> decide

section Probe

variable {σ : Type} {b : Backend σ} {s : Session} {path : String} {mask : Num} {P : Assertion σ}

section Granted

variable {rights : Right → Bool}
  (told : ∀ right x t, P x t → (b.permits s right path).answer x = (.ok (rights right), x))
include told

theorem ask_granted (right : Right) :
    Act.Triple P (ask b s path mask right)
      (fun answer x t => P x t ∧ answer = (Mode.asks mask right && rights right))
      fun _ _ _ => False := by
  unfold ask
  cases Mode.asks mask right with
  | true =>
    refine .call_ok fun x t hP => ⟨rights right, x, told right x t hP, hP, ?_⟩
    exact (Bool.true_and _).symm
  | false => exact .pure fun x t hP => ⟨hP, (Bool.false_and _).symm⟩

/-- Where the backend tells the rights, those that were asked for and are granted are answered. -/
theorem probe_granted {mode : Nat}
    (asked : ∀ right, Mode.asks mask right = decide (Has mode right)) :
    Act.Triple P (probe b s path mask) (fun bits x t => P x t ∧ Answers rights mode bits)
      fun _ _ _ => False := by
  have answered : ∀ execute write read : Bool,
      execute = (Mode.asks mask .execute && rights .execute) →
      write = (Mode.asks mask .write && rights .write) →
      read = (Mode.asks mask .read && (rights .read || write)) →
      Answers rights mode (granted execute write read) := by
    rintro execute write read rfl rfl rfl
    obtain ⟨hexecute, hwrite, hread, owned⟩ := has_granted
      (Mode.asks mask .execute && rights .execute) (Mode.asks mask .write && rights .write)
      (Mode.asks mask .read && (rights .read || Mode.asks mask .write && rights .write))
    refine ⟨hexecute.trans ?_, hwrite.trans ?_, hread.trans ?_, owned⟩ <;> simp [asked]
  have noted : ∀ fields bits, Act.Triple (fun x t => P x t ∧ Answers rights mode bits)
      (do Act.note .debug probedMessage fields; pure bits : Act σ Nat)
      (fun bits x t => P x t ∧ Answers rights mode bits) fun _ _ _ => False :=
    fun _ _ => .bind (.note _ _ _) fun _ => .pure fun _ _ h => h
  refine .bind (ask_granted told .execute) fun execute => .assuming fun hexecute => ?_
  refine .bind (ask_granted told .write) fun write => .assuming fun hwrite => ?_
  cases write with
  | true =>
    refine (noted _ _).weaken_pre fun x t hP => ⟨hP, answered _ _ _ hexecute hwrite ?_⟩
    rw [Bool.or_true, Bool.and_true]
  | false =>
    refine .bind (ask_granted told .read) fun read => .assuming fun hread => ?_
    refine (noted _ _).weaken_pre fun x t hP => ⟨hP, answered _ _ _ hexecute hwrite ?_⟩
    rw [Bool.or_false, hread]

end Granted

section Refused

variable (refused : ∀ right x t, P x t → ∃ f, (b.permits s right path).answer x = (.error f, x))
include refused

theorem ask_refused (right : Right) :
    Act.Triple P (ask b s path mask right)
      (fun answer x t => P x t ∧ answer = false ∧ Mode.asks mask right = false)
      fun _ x t => P x t ∧ Mode.asks mask right = true := by
  unfold ask
  cases Mode.asks mask right with
  | true =>
    refine .call_error fun x t hP => ?_
    obtain ⟨f, hf⟩ := refused right x t hP
    exact ⟨f, x, hf, hP, rfl⟩
  | false => exact .pure fun x t hP => ⟨hP, rfl, rfl⟩

/-- Where the backend does not tell the rights, nothing is answered but a mask that does not ask. -/
theorem probe_refused :
    Act.Triple P (probe b s path mask)
      (fun bits x t => P x t ∧ bits = 0 ∧ ∀ right, Mode.asks mask right = false)
      fun _ x t => P x t ∧ ∃ right, Mode.asks mask right = true := by
  have asked : ∀ right, Act.Triple P (ask b s path mask right)
      (fun answer x t => P x t ∧ answer = false ∧ Mode.asks mask right = false)
      fun _ x t => P x t ∧ ∃ right, Mode.asks mask right = true :=
    fun right => (ask_refused refused right).weaken_fails fun _ _ _ ⟨hP, h⟩ => ⟨hP, right, h⟩
  refine .bind (asked .execute) fun _ => .assuming ?_
  rintro ⟨rfl, hexecute⟩
  refine .bind (asked .write) fun _ => .assuming ?_
  rintro ⟨rfl, hwrite⟩
  refine .bind (asked .read) fun _ => .assuming ?_
  rintro ⟨rfl, hread⟩
  refine .bind (.note _ _ _) fun _ => .pure fun x t hP => ⟨hP, rfl, fun right => ?_⟩
  cases right <;> assumption

end Refused

end Probe

end Access

end InodeGateway
