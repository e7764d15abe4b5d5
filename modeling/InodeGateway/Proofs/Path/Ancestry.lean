import InodeGateway.Proofs.Path.WrittenForm

/-!
# Ancestors of paths

A path contains another if its names begin the names of the other.  On written forms this is the
test that callers make: the other is the same text, or begins with this one and a separator.

## Main statements

* `Path.child_induction` — induction from the root down
* `Path.contains_child`, `Path.contains_of_parent?` — going down and up within a path
* `Spelling.isWithin_toText` — the test on written forms is the test on paths
-/

namespace InodeGateway

namespace Path

variable {p q r : Path}

theorem contains_iff : p.contains q ↔ p.names <+: q.names := List.isPrefixOf_iff_prefix

@[simp] theorem contains_self (p : Path) : p.contains p := contains_iff.mpr List.prefix_rfl

/-- What lies within a path has its children within it. -/
theorem contains_child (h : p.contains q) (n : Name) : p.contains (q.child n) :=
  contains_iff.mpr ((contains_iff.mp h).trans (List.prefix_append _ _))

/-- A path that has a parent is a child of it. -/
theorem exists_child_of_parent? (h : q.parent? = some p) : ∃ n, q = p.child n := by
  unfold parent? at h
  split at h
  · cases h
  · next hne =>
    cases h
    refine ⟨q.names.getLast hne, congrArg Path.mk ?_⟩
    exact (List.dropLast_concat_getLast hne).symm

/-- What holds of the root and goes over to children holds of every path. -/
theorem child_induction {P : Path → Prop} (root : P .root) (child : ∀ p n, P p → P (p.child n))
    (p : Path) : P p := by
  induction hdepth : p.depth generalizing p with
  | zero =>
    obtain ⟨names⟩ := p
    obtain rfl : names = [] := List.length_eq_zero_iff.mp hdepth
    exact root
  | succ d ih =>
    have hparent : ∃ q, p.parent? = some q := by
      rw [parent?, if_neg (List.ne_nil_of_length_eq_add_one hdepth)]
      exact ⟨_, rfl⟩
    obtain ⟨q, hq⟩ := hparent
    have above := depth_of_parent? hq
    obtain ⟨n, rfl⟩ := exists_child_of_parent? hq
    exact child q n (ih q (by omega))

theorem exists_child_of_ne_root (h : p ≠ .root) : ∃ q n, p = child q n := by
  induction p using child_induction with
  | root => exact absurd rfl h
  | child q n _ => exact ⟨q, n, rfl⟩

/-- The parent of a path that lies below another still lies within it. -/
theorem contains_of_parent? (h : p.contains q) (hne : q ≠ p) (hparent : q.parent? = some r) :
    p.contains r := by
  obtain ⟨more, hmore⟩ := contains_iff.mp h
  unfold parent? at hparent
  split at hparent
  · cases hparent
  · cases hparent
    have hmore' : more ≠ [] := by
      rintro rfl
      rw [List.append_nil] at hmore
      exact hne (congrArg Path.mk hmore.symm)
    rw [contains_iff, ← hmore, List.dropLast_append_of_ne_nil hmore']
    exact List.prefix_append _ _

/-- The written form of names below others begins with theirs. -/
theorem intercalate_append {a b : List (List Char)} (ha : a ≠ []) (hb : b ≠ []) :
    ['/'].intercalate (a ++ b) = ['/'].intercalate a ++ '/' :: ['/'].intercalate b := by
  induction a with
  | nil => exact absurd rfl ha
  | cons x xs ih =>
    cases xs with
    | nil => simp [List.intercalate_cons_of_ne_nil hb]
    | cons y ys => simpa using ih (by simp)

/-- Below a path other than the root, written forms begin with its own and a separator. -/
theorem chars_prefix_iff (hp : p.names ≠ []) :
    p.chars ++ ['/'] <+: q.chars ↔ ∃ more, more ≠ [] ∧ q.names = p.names ++ more := by
  constructor
  · rintro ⟨rest, hrest⟩
    -- Cutting both sides at the separators turns the texts into the lists of their names.
    have cut := congrArg (List.splitOn '/') hrest
    rw [List.append_assoc, List.singleton_append, List.splitOn_append_cons_self, splitOn_chars,
      splitOn_chars, if_neg hp, List.cons_append, List.cons.injEq] at cut
    have tail := cut.2
    split at tail
    · -- The root has too few names for the left side.
      have lengths := congrArg List.length tail
      have hnames := List.length_pos_iff.mpr hp
      have hpieces := List.length_pos_iff.mpr (List.splitOn_ne_nil '/' rest)
      simp only [List.length_append, List.length_map, List.length_singleton] at lengths
      omega
    · obtain ⟨ps, more, hq, hps, hmore⟩ := List.map_eq_append_iff.mp tail.symm
      have same : ps = p.names :=
        (List.map_inj_right fun _ _ h => Name.toList_injective h).mp hps
      refine ⟨more, ?_, by rw [hq, same]⟩
      rintro rfl
      exact List.splitOn_ne_nil '/' rest hmore.symm
  · rintro ⟨more, hmore, hq⟩
    refine ⟨['/'].intercalate (more.map fun n => n.text.toList), ?_⟩
    have hpieces := intercalate_append (a := p.names.map fun n => n.text.toList)
      (b := more.map fun n => n.text.toList) (by simpa using hp) (by simpa using hmore)
    rw [chars, chars, hq, List.map_append, hpieces]
    simp

end Path

/-- On written forms, the ancestor test is the one on paths. -/
theorem Spelling.isWithin_toText (p q : Path) : isWithin p.toText q.toText = p.contains q := by
  rw [Bool.eq_iff_iff, isWithin, Path.contains_iff]
  simp only [Bool.or_eq_true, beq_iff_eq, Path.toText_inj, List.isPrefixOf_iff_prefix,
    Path.toText_eq_separator_iff]
  -- The root contains everything; below it the separator keeps names apart that begin alike.
  by_cases hp : p.names = []
  · have hroot : p = Path.root := Path.names_eq_nil_iff.mp hp
    simp [hroot, Path.root]
  · have hne : p ≠ Path.root := fun h => hp (Path.names_eq_nil_iff.mpr h)
    rw [Path.toList_toText, Path.toList_toText, Path.chars_prefix_iff hp]
    constructor
    · rintro ((hroot | rfl) | ⟨more, -, hq⟩)
      · exact absurd hroot hne
      · exact List.prefix_rfl
      · exact ⟨more, hq.symm⟩
    · rintro ⟨more, hmore⟩
      by_cases hnil : more = []
      · refine .inl (.inr (congrArg Path.mk ?_))
        rw [← hmore, hnil, List.append_nil]
      · exact .inr ⟨more, hnil, hmore.symm⟩

end InodeGateway
