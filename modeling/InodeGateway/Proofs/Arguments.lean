import InodeGateway.Gateway.Creation
import InodeGateway.Path.Spelling

/-!
# What speaks against arguments

Paths, names, modes and requests for new objects are looked at one after another, and the first that
does not do is refused.  Every such refusal is an invalid argument.

## Main definitions

* `Num.IsWhole`, `Mode.IsAcceptable`, `Name.IsAcceptable`, `Creation.IsAcceptable` — what the
  checks let through, said without them

## Main statements

* `error_of_map`, `ok_of_map`, `error_of_bind`, `ok_of_bind` — what the outcome of a composed check
  says about its parts
* `Path.code_of_ofText`, `Name.code_of_ofText`, `Creation.code_of_check` — the class of refusals
* `Mode.check_eq_ok_iff`, `Name.ofText_eq_ok_iff`, `Creation.check_eq_ok_iff` — what is accepted
-/

namespace InodeGateway

section Outcomes

variable {ε α β : Type} {e : ε}

/-- A function on an answer does not change a refusal. -/
theorem error_of_map {f : α → β} {answer : Except ε α} (h : answer.map f = .error e) :
    answer = .error e := by
  cases answer with
  | error e' => exact congrArg Except.error (Except.error.inj h)
  | ok a => cases h

theorem ok_of_map {f : α → β} {answer : Except ε α} {b : β} (h : answer.map f = .ok b) :
    ∃ a, answer = .ok a ∧ f a = b := by
  cases answer with
  | error e => cases h
  | ok a => exact ⟨a, rfl, Except.ok.inj h⟩

/-- A sequence is refused by its first step or by what follows. -/
theorem error_of_bind {first : Except ε α} {next : α → Except ε β}
    (h : first >>= next = .error e) : first = .error e ∨ ∃ a, next a = .error e := by
  cases first with
  | error e' => exact .inl (congrArg Except.error (Except.error.inj h))
  | ok a => exact .inr ⟨a, h⟩

/-- A sequence is accepted if its first step and what follows are. -/
theorem ok_of_bind {first : Except ε α} {next : α → Except ε β} {b : β}
    (h : first >>= next = .ok b) : ∃ a, first = .ok a ∧ next a = .ok b := by
  cases first with
  | error e' => cases h
  | ok a => exact ⟨a, rfl, h⟩

theorem bind_eq_ok {first : Except ε α} {next : α → Except ε β} {a : α} {b : β}
    (hfirst : first = .ok a) (hnext : next a = .ok b) : first >>= next = .ok b := by
  subst hfirst
  exact hnext

theorem ok_of_toOption {answer : Except ε α} {a : α} (h : answer.toOption = some a) :
    answer = .ok a := by
  cases answer with
  | error e => cases h
  | ok a' => exact congrArg Except.ok (Option.some.inj h)

end Outcomes

/-- A text that is no name is an invalid argument. -/
theorem Name.code_of_ofText {text : String} {r : Refusal} (h : ofText text = .error r) :
    r.code = .invalidArgument := by
  unfold ofText objection? at h
  grind [Refusal.code]

/-- A text that spells no path is an invalid argument. -/
theorem Path.code_of_ofText {text : String} {r : Refusal} (h : ofText text = .error r) :
    r.code = .invalidArgument := by
  unfold ofText at h
  grind [Refusal.code]

theorem Spelling.code_of_name {text : String} {r : Refusal} (h : name text = .error r) :
    r.code = .invalidArgument := by
  unfold name at h
  rcases error_of_bind h with hpath | ⟨_, hname⟩
  · exact Path.code_of_ofText hpath
  · cases hname

/-- A mode out of range is an invalid argument. -/
theorem Mode.code_of_check {label : ModeLabel} {mode : Num} {r : Refusal}
    (h : check label mode = .error r) : r.code = .invalidArgument := by
  unfold check at h
  grind [Refusal.code]

/-- Whatever speaks against a request for a new object, it is an invalid argument. -/
theorem Creation.code_of_check {parent : Handle} {name kind : String} {owner : Principal}
    {mode : Num} {r : Refusal} (h : check parent name kind owner mode = .error r) :
    r.code = .invalidArgument := by
  unfold check at h
  rcases error_of_bind h with hparent | ⟨_, h⟩
  · unfold checkHandle at hparent
    grind [Refusal.code]
  rcases error_of_bind h with hname | ⟨_, h⟩
  · exact Name.code_of_ofText hname
  rcases error_of_bind h with hkind | ⟨_, h⟩
  · unfold checkKind at hkind
    grind [Refusal.code]
  rcases error_of_bind h with howner | ⟨_, h⟩
  · unfold Principal.check at howner
    grind [Refusal.code]
  rcases error_of_bind h with hmode | ⟨_, h⟩
  · exact Mode.code_of_check hmode
  · cases h

/-- A whole number that is not below zero. -/
def Num.IsWhole (x : Num) : Prop := ∃ n : Nat, x = .fin n

/-- A mode or a mask: a whole number of twelve bits. -/
def Mode.IsAcceptable (mode : Num) : Prop := ∃ n : Nat, n ≤ 0o7777 ∧ mode = .fin n

/-- A component of a path: some characters, among them neither a separator nor NUL, that are none of
the two references. -/
def Name.IsAcceptable (text : String) : Prop :=
  text ≠ "" ∧ text ≠ "." ∧ text ≠ ".." ∧ '/' ∉ text.toList ∧ '\x00' ∉ text.toList

/-- All that a request for a new object says beside its directory. -/
def Creation.IsAcceptable (name kind : String) (owner : Principal) (mode : Num) : Prop :=
  Name.IsAcceptable name ∧ (kind = "file" ∨ kind = "directory") ∧
    owner.userId.IsWhole ∧ owner.groupId.IsWhole ∧ Mode.IsAcceptable mode

/-- A rational number is a natural one if it is whole and not below zero. -/
theorem eq_natCast {q : Rat} (hden : q.den = 1) (hnum : 0 ≤ q.num) : q = (q.num.toNat : Nat) := by
  apply Rat.ext
  · rw [Rat.num_natCast, Int.toNat_of_nonneg hnum]
  · rw [Rat.den_natCast, hden]

theorem Num.isNatural_iff {x : Num} : x.isNatural ↔ x.IsWhole := by
  constructor
  · intro h
    rcases x with _ | negative | q
    · cases h
    · cases h
    · simp only [isNatural, isInteger, isNegative, Bool.and_eq_true, decide_eq_true_eq,
        Bool.not_eq_true', decide_eq_false_iff_not, Rat.not_lt] at h
      exact ⟨_, congrArg fin (eq_natCast h.1 (Rat.num_nonneg.mpr h.2))⟩
  · rintro ⟨n, rfl⟩
    have nonneg : ¬ (n : Rat) < 0 := Rat.not_lt.mpr Rat.natCast_nonneg
    simp only [isNatural, isInteger, isNegative, Rat.den_natCast, nonneg, decide_true, decide_false,
      Bool.not_false, Bool.and_self]

theorem Mode.check_eq_ok_iff (label : ModeLabel) {mode : Num} :
    check label mode = .ok () ↔ IsAcceptable mode := by
  have accepted : check label mode = .ok () ↔ (mode.toNatUpTo? greatest).isSome := by
    unfold check
    split <;> simp_all
  rw [accepted]
  constructor
  · intro h
    rcases mode with _ | negative | q
    · cases h
    · cases h
    · simp only [Num.toNatUpTo?] at h
      split at h
      · next hq => exact ⟨q.num.toNat, hq.2.2, congrArg Num.fin (eq_natCast hq.1 hq.2.1)⟩
      · cases h
  · rintro ⟨n, hn, rfl⟩
    simp [Num.toNatUpTo?, greatest, hn]

theorem Principal.check_eq_ok_iff {p : Principal} :
    p.check = .ok () ↔ p.userId.IsWhole ∧ p.groupId.IsWhole := by
  rw [← Num.isNatural_iff, ← Num.isNatural_iff, ← Bool.and_eq_true]
  unfold check
  split <;> simp_all

theorem Name.ofText_eq_ok_iff {text : String} :
    (∃ n, ofText text = .ok n) ↔ IsAcceptable text := by
  have accepted : (∃ n, ofText text = .ok n) ↔ objection? text = none := by
    unfold ofText
    split <;> simp_all
  rw [accepted]
  unfold objection? IsAcceptable
  have empty : text = "" ↔ text.toList = [] := by rw [← String.toList_inj]; rfl
  have dot : text = "." ↔ text.toList = ['.'] := by rw [← String.toList_inj]; rfl
  have dots : text = ".." ↔ text.toList = ['.', '.'] := by rw [← String.toList_inj]; rfl
  rw [Ne, Ne, Ne, empty, dot, dots]
  grind

theorem Creation.checkKind_eq_ok_iff {kind : String} :
    (∃ k, checkKind kind = .ok k) ↔ kind = "file" ∨ kind = "directory" := by
  unfold checkKind Kind.ofText?
  by_cases hfile : kind = "file"
  · simp [hfile]
  · by_cases hdirectory : kind = "directory" <;> simp [hfile, hdirectory]

theorem Creation.checkHandle_eq_ok_iff {h : Handle} : checkHandle h = .ok () ↔ 0 < h := by
  unfold checkHandle
  grind

/-- As long as it may be a handle, the directory takes no part in the check. -/
theorem Creation.check_parent {h h' : Handle} (hpos : 0 < h) (hpos' : 0 < h') (name kind : String)
    (owner : Principal) (mode : Num) : check h' name kind owner mode =
      (check h name kind owner mode).map fun c => { c with parent := h' } := by
  rw [check, check, checkHandle_eq_ok_iff.mpr hpos, checkHandle_eq_ok_iff.mpr hpos']
  cases Name.ofText name with
  | error e => rfl
  | ok n =>
    cases checkKind kind with
    | error e => rfl
    | ok k =>
      cases owner.check with
      | error e => rfl
      | ok _ => cases Mode.check .mode mode <;> rfl

/-- A request for a new object passes if its directory may be a handle and all that it says beside
that is acceptable. -/
theorem Creation.check_eq_ok_iff {parent : Handle} {name kind : String} {owner : Principal}
    {mode : Num} : (∃ c, check parent name kind owner mode = .ok c) ↔
      0 < parent ∧ IsAcceptable name kind owner mode := by
  rw [IsAcceptable, ← Name.ofText_eq_ok_iff, ← checkKind_eq_ok_iff,
    ← and_assoc (c := Mode.IsAcceptable mode), ← Principal.check_eq_ok_iff,
    ← Mode.check_eq_ok_iff .mode, ← checkHandle_eq_ok_iff]
  constructor
  · rintro ⟨c, h⟩
    obtain ⟨_, hparent, h⟩ := ok_of_bind h
    obtain ⟨n, hname, h⟩ := ok_of_bind h
    obtain ⟨k, hkind, h⟩ := ok_of_bind h
    obtain ⟨_, howner, h⟩ := ok_of_bind h
    obtain ⟨_, hmode, -⟩ := ok_of_bind h
    exact ⟨hparent, ⟨n, hname⟩, ⟨k, hkind⟩, howner, hmode⟩
  · rintro ⟨hparent, ⟨n, hname⟩, ⟨k, hkind⟩, howner, hmode⟩
    refine ⟨⟨parent, n, k, owner, mode⟩, ?_⟩
    rw [check, hparent, hname, hkind, howner, hmode]
    rfl

end InodeGateway
