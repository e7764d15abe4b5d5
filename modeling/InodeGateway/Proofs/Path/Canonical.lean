import InodeGateway.Proofs.Path.Acceptance
import InodeGateway.Proofs.Path.Ancestry
import InodeGateway.Proofs.Path.Spellings

/-!
# Normal forms

The normal form of a text keeps those of its components that mean something, in their order and
character for character, and nothing else.  It is its own normal form; two texts have one normal
form if the components that they keep are the same.

## Main definitions

* `Spelling.IsNormal` — a text that is its own normal form
* `Spelling.Canonical` — what the normal form of a text looks like and what it keeps of the text

## Main statements

* `Path.segments_of_ofText` — the names of a path are the components of its text that mean something
* `Spelling.isNormal_iff` — normal forms are the written forms of paths
* `Spelling.normalize_canonical` — which texts have a normal form, what it is, and when two texts
  have the same one
-/

namespace InodeGateway

namespace Path

variable {p q : Path} {text : String}

/-- The names of a path are the components of its text that mean something. -/
theorem segments_of_ofText (h : ofText text = .ok p) :
    segments text.toList = p.names.map fun n => n.text.toList :=
  (ofText_eq_ok.mp h).2.2

theorem segments_toText (p : Path) :
    segments p.toText.toList = p.names.map fun n => n.text.toList :=
  segments_of_ofText p.ofText_toText

theorem map_toList_inj :
    (p.names.map fun n => n.text.toList) = (q.names.map fun n => n.text.toList) ↔ p = q := by
  constructor
  · intro h
    exact congrArg mk ((List.map_inj_right fun _ _ => Name.toList_injective).mp h)
  · rintro rfl
    rfl

/-- A child is written as its parent, a separator and the name; the root leaves its separator to the
name. -/
theorem chars_child (p : Path) (n : Name) :
    (p.child n).chars = (if p = .root then [] else p.chars) ++ '/' :: n.text.toList := by
  split
  · next hp =>
    subst hp
    simp [child, chars, root]
  · next hp =>
    have hnames : p.names ≠ [] := fun h => hp (names_eq_nil_iff.mp h)
    rw [chars, chars, child, List.map_append, intercalate_append (by simpa using hnames) (by simp)]
    simp

/-- Only the root is written with a separator at its end. -/
theorem getLast?_chars (hp : p ≠ .root) : p.chars.getLast? ≠ some '/' := by
  obtain ⟨q, n, rfl⟩ := exists_child_of_ne_root hp
  intro hlast
  rw [chars_child, List.getLast?_append, List.getLast?_cons, Option.some_or] at hlast
  cases hname : n.text.toList.getLast? with
  | none => exact n.toList_ne_nil (List.getLast?_eq_none_iff.mp hname)
  | some c =>
    rw [hname] at hlast
    obtain rfl : c = '/' := Option.some.inj hlast
    exact n.separator_not_mem (List.mem_of_getLast? hname)

end Path

namespace Spelling

variable {text form : String} {p : Path}

/-- A text that is its own normal form. -/
def IsNormal (text : String) : Prop := normalize text = .ok text

theorem isNormal_toText (p : Path) : IsNormal p.toText := normalize_toText p

/-- Normal forms are the written forms of paths. -/
theorem isNormal_iff : IsNormal text ↔ ∃ p : Path, p.toText = text := by
  constructor
  · intro h
    obtain ⟨p, -, hp⟩ := ofText_of_normalize h
    exact ⟨p, hp⟩
  · rintro ⟨p, rfl⟩
    exact isNormal_toText p

/-- What the normal form of a text looks like and what it keeps of the text. -/
structure Canonical (text form : String) : Prop where
  /-- It begins with a separator. -/
  begins : form.toList.head? = some '/'
  /-- No component behind it is empty or refers to the directory itself. -/
  plain : form ≠ "/" → ∀ piece ∈ form.toList.tail.splitOn '/', piece ≠ [] ∧ piece ≠ ['.']
  ends : form ≠ "/" → form.toList.getLast? ≠ some '/'
  /-- Those components of the text are kept, in their order, that are not empty and do not refer to
  the directory itself. -/
  keeps : (form.toList.splitOn '/').filter (fun piece => piece ≠ [] ∧ piece ≠ ['.']) =
    (text.toList.splitOn '/').filter fun piece => piece ≠ [] ∧ piece ≠ ['.']
  fixed : IsNormal form

theorem canonical_of_ofText (h : Path.ofText text = .ok p) : Canonical text p.toText := by
  refine ⟨?_, ?_, ?_, ?_, isNormal_toText p⟩
  · rw [Path.toList_toText]
    rfl
  · intro hne piece hpiece
    rw [Ne, Path.toText_eq_separator_iff, ← Path.names_eq_nil_iff] at hne
    rw [Path.toList_toText, Path.splitOn_tail_chars hne] at hpiece
    obtain ⟨n, -, rfl⟩ := List.mem_map.mp hpiece
    exact ⟨n.toList_ne_nil, n.toList_ne_dot⟩
  · intro hne
    rw [Ne, Path.toText_eq_separator_iff] at hne
    rw [Path.toList_toText]
    exact Path.getLast?_chars hne
  · exact (Path.segments_toText p).trans (Path.segments_of_ofText h).symm

theorem exists_normalize_iff :
    (∃ form, normalize text = .ok form) ↔ ∃ p, Path.ofText text = .ok p := by
  constructor
  · rintro ⟨form, h⟩
    obtain ⟨p, hp, -⟩ := ofText_of_normalize h
    exact ⟨p, hp⟩
  · rintro ⟨p, hp⟩
    exact ⟨_, normalize_of_ofText hp⟩

/-- A text has a normal form if it begins with a separator, holds no NUL character and nowhere
refers to the directory above; any other text is an invalid argument.  The normal form keeps the
components that mean something, so that texts with the same ones have the same normal form, and no
others. -/
theorem normalize_canonical :
    (∀ text, (∃ form, normalize text = .ok form) ↔
      text.toList.head? = some '/' ∧ '\x00' ∉ text.toList ∧ ¬ Path.NamesAbove text) ∧
    (∀ text refusal, normalize text = .error refusal → refusal.code = .invalidArgument) ∧
    (∀ text form, normalize text = .ok form → Canonical text form) ∧
    ∀ a b x y, normalize a = .ok x → normalize b = .ok y →
      (x = y ↔ (a.toList.splitOn '/').filter (fun piece => piece ≠ [] ∧ piece ≠ ['.']) =
        (b.toList.splitOn '/').filter fun piece => piece ≠ [] ∧ piece ≠ ['.']) := by
  refine ⟨fun text => ?_, fun text refusal h => ?_, fun text form h => ?_, fun a b x y ha hb => ?_⟩
  · rw [exists_normalize_iff, Path.ofText_eq_ok_iff]
  · rcases error_of_bind h with hpath | ⟨_, h⟩
    · exact Path.code_of_ofText hpath
    · cases h
  · obtain ⟨p, hp, rfl⟩ := ofText_of_normalize h
    exact canonical_of_ofText hp
  · obtain ⟨p, hp, rfl⟩ := ofText_of_normalize ha
    obtain ⟨q, hq, rfl⟩ := ofText_of_normalize hb
    show p.toText = q.toText ↔ Path.segments a.toList = Path.segments b.toList
    rw [Path.toText_inj, Path.segments_of_ofText hp, Path.segments_of_ofText hq,
      Path.map_toList_inj]

example : normalize "/grid//home/./.../ rods /" = .ok "/grid/home/.../ rods " := by rfl

end Spelling

end InodeGateway
