import InodeGateway.Proofs.Path.Neighbours

/-!
# Paths in their order

A path lies within another if the other is reached from it by going up, from parent to parent.  This
is an order in which the ancestors of a path form a chain, as long as its depth.

## Main definitions

* `Path.ancestor?`, `Spelling.ancestor?` — what is so many steps above

## Main statements

* `Path.ancestor?_eq_some_iff` — what is so many steps above is what contains the path and is less
  deep by as much
* `Spelling.isWithin_ancestral` — the test on texts is the order of paths
-/

namespace InodeGateway

namespace Path

variable {p q r : Path} {n : Name}

theorem contains_trans (h : p.contains q) (h' : q.contains r) : p.contains r :=
  contains_iff.mpr ((contains_iff.mp h).trans (contains_iff.mp h'))

theorem contains_antisymm (h : p.contains q) (h' : q.contains p) : p = q := by
  have hle := (contains_iff.mp h').length_le
  exact congrArg mk ((contains_iff.mp h).eq_of_length_le hle)

/-- Of two paths that contain a third, one contains the other. -/
theorem contains_total (h : p.contains r) (h' : q.contains r) : p.contains q ∨ q.contains p := by
  rw [contains_iff, contains_iff]
  exact List.prefix_or_prefix_of_prefix (contains_iff.mp h) (contains_iff.mp h')

theorem contains_child_iff : p.contains (q.child n) ↔ p = q.child n ∨ p.contains q := by
  obtain ⟨names⟩ := p
  rw [contains_iff, contains_iff, child, List.prefix_concat_iff, mk.injEq]

theorem depth_child (p : Path) (n : Name) : (p.child n).depth = p.depth + 1 :=
  depth_of_parent? (parent?_child p n)

theorem depth_le_of_contains (h : p.contains q) : p.depth ≤ q.depth :=
  (contains_iff.mp h).length_le

/-- What has a parent lies within it. -/
theorem contains_of_parent?_eq (h : q.parent? = some p) : p.contains q := by
  obtain ⟨n, rfl⟩ := exists_child_of_parent? h
  exact contains_child p.contains_self n

/-- A path does not lie within what it is the parent of. -/
theorem not_contains_of_parent?_eq (h : q.parent? = some p) : ¬ q.contains p := by
  intro hin
  have hle := depth_le_of_contains hin
  have hdepth := depth_of_parent? h
  omega

theorem ne_of_parent?_eq (h : q.parent? = some p) : p ≠ q := by
  rintro rfl
  exact not_contains_of_parent?_eq h p.contains_self

/-- What lies within a path that has a parent has one too. -/
theorem parent?_ne_none_of_contains (hr : r.parent? = some p) (h : r.contains q) :
    q.parent? ≠ none := by
  intro hq
  have deep := depth_of_parent? hr
  have deeper := depth_le_of_contains h
  rw [parent?_eq_none_iff.mp hq] at deeper
  exact absurd deeper (by rw [deep]; nofun)

/-- Towards a path that lies below another there is one step to take. -/
theorem exists_towards (h : p.contains q) (hne : p ≠ q) :
    ∃ r : Path, r.parent? = some p ∧ r.contains q := by
  induction q using child_induction with
  | root => exact absurd (contains_antisymm h (contains_iff.mpr List.nil_prefix)) hne
  | child q n ih =>
    have above : p.contains q := (contains_child_iff.mp h).resolve_left hne
    by_cases hq : p = q
    · exact ⟨q.child n, by rw [hq, parent?_child], contains_self _⟩
    · obtain ⟨r, hr, hin⟩ := ih above hq
      exact ⟨r, hr, contains_child hin n⟩

/-- What is so many steps above a path. -/
def ancestor? : Nat → Path → Option Path
  | 0, p => some p
  | k + 1, p => p.parent?.bind (ancestor? k)

/-- What is so many steps above a path contains it and is less deep by as much. -/
theorem ancestor?_eq_some_iff {k : Nat} :
    q.ancestor? k = some p ↔ p.contains q ∧ q.depth = p.depth + k := by
  induction k generalizing q with
  | zero =>
    rw [ancestor?, Option.some.injEq]
    constructor
    · rintro rfl
      exact ⟨q.contains_self, rfl⟩
    · rintro ⟨h, hdepth⟩
      exact (congrArg mk ((contains_iff.mp h).eq_of_length hdepth.symm)).symm
  | succ k ih =>
    by_cases hq : q = .root
    · -- Nothing is above the root, and nothing is less deep.
      subst hq
      constructor
      · intro h
        cases h
      · rintro ⟨-, hdepth⟩
        cases hdepth
    · obtain ⟨above, n, rfl⟩ := exists_child_of_ne_root hq
      rw [ancestor?, parent?_child, Option.bind_some, ih, contains_child_iff, depth_child]
      constructor
      · rintro ⟨h, hdepth⟩
        exact ⟨.inr h, by omega⟩
      · rintro ⟨rfl | h, hdepth⟩
        · rw [depth_child] at hdepth
          omega
        · exact ⟨h, by omega⟩

theorem contains_iff_exists_ancestor? : p.contains q ↔ ∃ k, q.ancestor? k = some p := by
  constructor
  · intro h
    have hle := depth_le_of_contains h
    exact ⟨q.depth - p.depth, ancestor?_eq_some_iff.mpr ⟨h, by omega⟩⟩
  · rintro ⟨k, h⟩
    exact (ancestor?_eq_some_iff.mp h).1

end Path

namespace Spelling

/-- What is so many steps above a text; the root has nothing above it. -/
def ancestor? : Nat → String → Except Refusal (Option String)
  | 0, text => .ok (some text)
  | k + 1, text => do
    match ← parent text with
    | none => return none
    | some above => ancestor? k above

theorem ancestor?_toText (k : Nat) (p : Path) :
    ancestor? k p.toText = .ok ((p.ancestor? k).map Path.toText) := by
  induction k generalizing p with
  | zero => rfl
  | succ k ih =>
    rw [ancestor?, parent_toText, Path.ancestor?]
    cases p.parent? with
    | none => rfl
    | some above => exact ih above

/-- On normal forms, the ancestor test compares the components from the root down. -/
theorem isWithin_iff_segments (p q : Path) : isWithin p.toText q.toText ↔
    Path.segments p.toText.toList <+: Path.segments q.toText.toList := by
  rw [isWithin_toText, Path.contains_iff, Path.segments_toText, Path.segments_toText]
  constructor
  · exact fun h => h.map _
  · intro h
    obtain ⟨names, hnames, heq⟩ := List.prefix_map_iff.mp h
    obtain rfl := (List.map_inj_right fun _ _ => Name.toList_injective).mp heq
    exact hnames

theorem isWithin_iff_exists_ancestor? (p q : Path) : isWithin p.toText q.toText ↔
    ∃ k, ancestor? k q.toText = .ok (some p.toText) := by
  rw [isWithin_toText, Path.contains_iff_exists_ancestor?]
  refine exists_congr fun k => ?_
  rw [ancestor?_toText, Except.ok.injEq, Option.map_eq_some_iff]
  constructor
  · exact fun h => ⟨p, h, rfl⟩
  · rintro ⟨r, hr, heq⟩
    rwa [Path.toText_injective heq] at hr

/-- On normal forms, the ancestor test holds if the components of the one begin those of the other,
and if going up from the other leads to the one.  It is an order; the ancestors of a text form a
chain in it, and what lies outside of a text has its parent outside of it. -/
theorem isWithin_ancestral :
    (∀ r t, IsNormal r → IsNormal t →
      (isWithin r t ↔ Path.segments r.toList <+: Path.segments t.toList) ∧
      (isWithin r t ↔ ∃ k, ancestor? k t = .ok (some r))) ∧
    (∀ r, IsNormal r → isWithin r r) ∧
    (∀ r s t, IsNormal r → IsNormal s → IsNormal t →
      isWithin r s → isWithin s t → isWithin r t) ∧
    (∀ r t, IsNormal r → IsNormal t → isWithin r t → isWithin t r → r = t) ∧
    (∀ r s t, IsNormal r → IsNormal s → IsNormal t →
      isWithin r t → isWithin s t → isWithin r s ∨ isWithin s r) ∧
    ∀ r t above, IsNormal r → IsNormal t → parent t = .ok (some above) →
      ¬ isWithin r t → ¬ isWithin r above := by
  simp only [isNormal_iff]
  refine ⟨?_, ?_, ?_, ?_, ?_, ?_⟩
  · rintro _ _ ⟨p, rfl⟩ ⟨q, rfl⟩
    exact ⟨isWithin_iff_segments p q, isWithin_iff_exists_ancestor? p q⟩
  · rintro _ ⟨p, rfl⟩
    rw [isWithin_toText]
    exact p.contains_self
  · rintro _ _ _ ⟨p, rfl⟩ ⟨q, rfl⟩ ⟨r, rfl⟩
    rw [isWithin_toText, isWithin_toText, isWithin_toText]
    exact Path.contains_trans
  · rintro _ _ ⟨p, rfl⟩ ⟨q, rfl⟩
    rw [isWithin_toText, isWithin_toText, Path.toText_inj]
    exact Path.contains_antisymm
  · rintro _ _ _ ⟨p, rfl⟩ ⟨q, rfl⟩ ⟨r, rfl⟩
    rw [isWithin_toText, isWithin_toText, isWithin_toText, isWithin_toText]
    exact Path.contains_total
  · rintro _ _ above ⟨p, rfl⟩ ⟨q, rfl⟩ hparent houtside
    rw [parent_toText, Except.ok.injEq, Option.map_eq_some_iff] at hparent
    obtain ⟨r, hr, rfl⟩ := hparent
    rw [isWithin_toText] at houtside ⊢
    exact fun hin => houtside (Path.contains_trans hin (Path.contains_of_parent?_eq hr))

/-- Names that begin alike are kept apart. -/
example : isWithin "/a" "/a/b" = true ∧ isWithin "/a" "/ab" = false := by decide +kernel

end Spelling

end InodeGateway
