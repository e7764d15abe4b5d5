import InodeGateway.Identity
import InodeGateway.Proofs.Num.Nearest
import InodeGateway.Proofs.Text.Numeral

/-!
# User ids

A text is a user id if it spells a number below the limit to which numbers of double precision count
without gaps.  The number is rounded before it is compared with the limit, but nothing above the
limit is rounded to what lies below.  An owner whose name is a number is found under that name as
long as the last zone mark is the one that was put behind the name.

## Main statements

* `Identity.userId_of_spells` — what becomes of a number that is spelled
* `Identity.userId_exact` — which texts are user ids, and which user id each of them is
* `Identity.namePart_owner`, `Identity.mark_mem_namePart` — the name of an owner, in a zone without
  marks and in one with marks
* `Identity.userId_namePart` — a numeric name is a user id exactly in zones without marks
-/

namespace InodeGateway.Identity

variable {owner text name zone : String} {id n : Nat}

section UserId

/-- A number that is spelled is the user id, or too great for one. -/
theorem userId_of_spells (spells : Text.Spells text n) :
    userId owner text =
      if n ≤ greatestUserId then .ok n else .error (.malformedIdentity owner text) := by
  obtain ⟨spelled, value⟩ := Text.spells_iff_digits.mp spells
  have below : greatestUserId < Num.exactLimit := by decide
  rw [userId, if_neg spelled, value, Num.toNatUpTo?_ofNat below]
  by_cases fits : n ≤ greatestUserId
  · rw [if_pos fits, if_pos fits]
  · rw [if_neg fits, if_neg fits]

theorem userId_of_not_spells (nothing : ∀ n, ¬ Text.Spells text n) :
    userId owner text = .error (.malformedIdentity owner text) := by
  rw [userId]
  split
  · rfl
  · next spelled => exact absurd (Text.spells_iff_digits.mpr ⟨spelled, rfl⟩) (nothing _)

/-- A text spells the user id, or none that is small enough. -/
theorem userId_cases (owner text : String) :
    (∃ n, (Text.Spells text n ∧ n ≤ greatestUserId) ∧ userId owner text = .ok n) ∨
      (∀ n, ¬ (Text.Spells text n ∧ n ≤ greatestUserId)) ∧
        userId owner text = .error (.malformedIdentity owner text) := by
  by_cases spelled : ∃ n, Text.Spells text n
  · obtain ⟨n, spells⟩ := spelled
    by_cases fits : n ≤ greatestUserId
    · exact .inl ⟨n, ⟨spells, fits⟩, by rw [userId_of_spells spells, if_pos fits]⟩
    · refine .inr ⟨fun n' h => fits (spells.unique h.1 ▸ h.2), ?_⟩
      rw [userId_of_spells spells, if_neg fits]
  · rw [not_exists] at spelled
    exact .inr ⟨fun n h => spelled n h.1, userId_of_not_spells spelled⟩

theorem userId_eq_ok_iff :
    userId owner text = .ok id ↔ Text.Spells text id ∧ id ≤ greatestUserId := by
  rcases userId_cases owner text with ⟨n, spells, told⟩ | ⟨nothing, told⟩
  · rw [told, Except.ok.injEq]
    exact ⟨fun same => same ▸ spells, fun other => spells.1.unique other.1⟩
  · simp [told, nothing id]

/-- A text is a user id if, apart from blanks around them, it consists of decimal digits, at least
one, whose exact value is at most 2 ^ 53 - 1; it is the user id of that value.  Any other text,
however many digits it has, is a failure of the storage.  Texts that spell different numbers never
give one user id. -/
theorem userId_exact :
    (∀ owner text id, userId owner text = .ok id ↔ Text.Spells text id ∧ id ≤ 2 ^ 53 - 1) ∧
    (∀ owner text r, userId owner text = .error r →
      r = .malformedIdentity owner text ∧ r.code = .ioFailure) ∧
    ∀ owner owner' text text' n n' id, Text.Spells text n → Text.Spells text' n' →
      userId owner text = .ok id → userId owner' text' = .ok id → n = n' := by
  refine ⟨fun owner text id => userId_eq_ok_iff, fun owner text r h => ?_,
    fun owner owner' text text' n n' id spells spells' h h' => ?_⟩
  · obtain rfl := userId_eq_error h
    exact ⟨rfl, rfl⟩
  · exact (spells.unique (userId_eq_ok_iff.mp h).1).trans
      ((userId_eq_ok_iff.mp h').1.unique spells')

/-- Zeros in front and blanks around do not count; the first number without a double of its own is
refused, though that double is the one of a number next to it. -/
theorem userId_padded :
    Text.Spells "\t007 " 7 ∧ userId "7#grid" "\t007 " = .ok 7 ∧
      Text.Spells "9007199254740993" (2 ^ 53 + 1) ∧
      ∀ id, userId "u#grid" "9007199254740993" ≠ .ok id := by
  have small : Text.Spells "\t007 " 7 := Text.spells_iff_digits.mpr ⟨by decide, by decide⟩
  have great : Text.Spells "9007199254740993" (2 ^ 53 + 1) :=
    Text.spells_iff_digits.mpr ⟨by decide, by decide⟩
  refine ⟨small, (userId_exact.1 _ _ _).mpr ⟨small, by decide⟩, great, fun id h => ?_⟩
  obtain ⟨spells, fits⟩ := (userId_exact.1 _ _ _).mp h
  obtain rfl := great.unique spells
  exact absurd fits (by decide)

end UserId

section NamePart

/-- In a zone without marks, an owner's name is found again. -/
theorem namePart_owner (name : String) (plain : '#' ∉ zone.toList) :
    namePart (Identity.owner name zone) = name := by
  have marked : (Identity.owner name zone).toList = name.toList ++ '#' :: zone.toList := by
    simp [Identity.owner]
  rw [namePart, marked, Text.cutLast_append plain]
  exact String.ofList_toList

/-- In a zone with marks, what is found has a mark in it, for the last mark is the zone's own. -/
theorem mark_mem_namePart (name : String) (marked : '#' ∈ zone.toList) :
    '#' ∈ (namePart (Identity.owner name zone)).toList := by
  cases hzone : Text.cutLast '#' zone.toList with
  | none => exact absurd marked (Text.cutLast_eq_none_iff.mp hzone)
  | some parts =>
    obtain ⟨left, right⟩ := parts
    obtain ⟨split, plain⟩ := Text.eq_of_cutLast hzone
    have whole : (Identity.owner name zone).toList =
        (name.toList ++ '#' :: left) ++ '#' :: right := by
      simp [Identity.owner, split]
    rw [namePart, whole, Text.cutLast_append plain]
    simp

/-- A text with a mark in it spells no number. -/
theorem not_spells_of_mark (marked : '#' ∈ text.toList) (n : Nat) : ¬ Text.Spells text n := by
  intro spells
  rcases spells.blank_or_digit marked with h | h
  · exact absurd h (by decide)
  · exact absurd h (by decide)

theorem namePart_numeric_ne (n : Nat) (zone : String) :
    namePart (Identity.owner (toString n) zone) ≠ "" := by
  intro hempty
  by_cases marked : '#' ∈ zone.toList
  · have mem := mark_mem_namePart (toString n) marked
    rw [hempty] at mem
    cases mem
  · rw [namePart_owner _ marked] at hempty
    have digits := congrArg String.toList hempty
    rw [Text.toList_toString] at digits
    exact Text.toDigits_ne_nil n digits

/-- An owner whose name is a number has that number as the user id, unless the zone has a mark. -/
theorem userId_namePart (hn : n ≤ greatestUserId) :
    userId owner (namePart (Identity.owner (toString n) zone)) =
      if '#' ∈ zone.toList then
        .error (.malformedIdentity owner (namePart (Identity.owner (toString n) zone)))
      else .ok n := by
  split
  · next marked => exact userId_of_not_spells (not_spells_of_mark (mark_mem_namePart _ marked))
  · next plain =>
    rw [namePart_owner _ plain, userId_of_spells (Text.spells_toString n), if_pos hn]

end NamePart

end InodeGateway.Identity
