import InodeGateway.Proofs.Path.WrittenForm

/-!
# Spellings of one path

Two texts are alike if they have one normal form.  Whoever reads paths from texts cannot tell them
apart.

## Main definitions

* `Spelling.Alike` — two spellings of one path

## Main statements

* `Spelling.alike_iff` — alike texts are read alike, and no others are
* `Path.ofText_dotted` — a reference to the root itself in front of a path means nothing
-/

namespace InodeGateway

namespace Spelling

/-- The texts have the same normal form.  A text that has none is alike to itself alone. -/
def Alike (a b : String) : Prop :=
  b = a ∨ ∃ text, normalize a = .ok text ∧ normalize b = .ok text

/-- What is normalized to a text spells the path that the text is the written form of. -/
theorem ofText_of_normalize {a text : String} (h : normalize a = .ok text) :
    ∃ p, Path.ofText a = .ok p ∧ p.toText = text := by
  rw [normalize] at h
  cases hp : Path.ofText a with
  | error refusal =>
    rw [hp] at h
    cases h
  | ok p =>
    rw [hp] at h
    exact ⟨p, rfl, Except.ok.inj h⟩

/-- A refusal tells the text that was refused. -/
theorem eq_of_ofText_error {a b : String} {refusal : Refusal}
    (ha : Path.ofText a = .error refusal) (hb : Path.ofText b = .error refusal) : b = a := by
  unfold Path.ofText at ha hb
  grind [String.toList_inj]

/-- Alike texts are read alike, and no others are. -/
theorem alike_iff {a b : String} : Alike a b ↔ Path.ofText b = Path.ofText a := by
  constructor
  · rintro (rfl | ⟨text, ha, hb⟩)
    · rfl
    · obtain ⟨p, hp, written⟩ := ofText_of_normalize ha
      obtain ⟨q, hq, written'⟩ := ofText_of_normalize hb
      rw [hp, hq, Path.toText_injective (written'.trans written.symm)]
  · intro h
    cases hp : Path.ofText a with
    | error refusal => exact .inl (eq_of_ofText_error hp (h.trans hp))
    | ok p => exact .inr ⟨p.toText, normalize_of_ofText hp, normalize_of_ofText (h.trans hp)⟩

namespace Alike

variable {a b : String}

theorem ofText_eq (h : Alike a b) : Path.ofText b = Path.ofText a := alike_iff.mp h

/-- Alike texts end in the same name. -/
theorem name_eq (h : Alike a b) : name b = name a := by rw [name, name, h.ofText_eq]

end Alike

end Spelling

namespace Path

/-- A separator and a reference to the directory itself in front of a path mean nothing. -/
theorem ofText_dotted {text : String} {p : Path} (h : ofText text = .ok p) :
    ofText ("/." ++ text) = .ok p := by
  obtain ⟨begins, nul, hnames⟩ := ofText_eq_ok.mp h
  obtain ⟨cs, hcs⟩ := List.head?_eq_some_iff.mp begins
  have cut : segments ('/' :: '.' :: '/' :: cs) = segments ('/' :: cs) := by
    simp [segments, List.splitOn_cons_eq_if_modifyHead]
  have written : ("/." ++ text).toList = '/' :: '.' :: '/' :: cs := by
    rw [String.toList_append, hcs]
    rfl
  rw [hcs] at nul hnames
  rw [ofText_eq_ok, written, cut]
  exact ⟨rfl, by simpa using nul, hnames⟩

end Path

end InodeGateway
