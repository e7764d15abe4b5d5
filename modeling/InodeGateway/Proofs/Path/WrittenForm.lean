import InodeGateway.Path.Spelling

/-!
# Written forms of paths

A path is read back from its written form, so that a written form spells one path and normalizing it
changes nothing.

## Main statements

* `Path.ofText_toText` — a path is read back from its written form
* `Path.toText_injective` — different paths have different written forms
* `Spelling.normalize_toText` — a written form is its own normal form
-/

namespace InodeGateway

namespace Name

/-- Nothing speaks against the characters of a name. -/
theorem toList_valid (n : Name) :
    n.text.toList ≠ [] ∧ n.text.toList ≠ ['.'] ∧ n.text.toList ≠ ['.', '.'] ∧
      '/' ∉ n.text.toList ∧ '\x00' ∉ n.text.toList := by
  have h := n.valid
  unfold objection? at h
  grind

theorem toList_ne_nil (n : Name) : n.text.toList ≠ [] := n.toList_valid.1

theorem toList_ne_dot (n : Name) : n.text.toList ≠ ['.'] := n.toList_valid.2.1

theorem separator_not_mem (n : Name) : '/' ∉ n.text.toList := n.toList_valid.2.2.2.1

theorem nul_not_mem (n : Name) : '\x00' ∉ n.text.toList := n.toList_valid.2.2.2.2

theorem toList_injective {m n : Name} (h : m.text.toList = n.text.toList) : m = n :=
  ext_text (String.ext h)

@[simp] theorem ofChars?_toList (n : Name) : ofChars? n.text.toList = some n := by
  simp [ofChars?, Except.toOption]

theorem toList_of_ofChars? {cs : List Char} {n : Name} (h : ofChars? cs = some n) :
    n.text.toList = cs := by
  unfold ofChars? at h
  cases hn : ofText (String.ofList cs) with
  | error r =>
    rw [hn] at h
    cases h
  | ok m =>
    rw [hn] at h
    cases h
    rw [text_of_ofText hn, String.toList_ofList]

end Name

namespace Path

theorem names_eq_nil_iff {p : Path} : p.names = [] ↔ p = .root := by
  obtain ⟨names⟩ := p
  rw [root, mk.injEq]

theorem mapM_ofChars?_eq_some_iff {pieces : List (List Char)} {names : List Name} :
    pieces.mapM Name.ofChars? = some names ↔ pieces = names.map fun n => n.text.toList := by
  constructor
  · intro h
    induction pieces generalizing names with
    | nil =>
      rw [List.mapM_nil] at h
      cases h
      rfl
    | cons piece pieces ih =>
      rw [List.mapM_cons] at h
      obtain ⟨n, hn, h⟩ := Option.bind_eq_some_iff.mp h
      obtain ⟨rest, hrest, h⟩ := Option.bind_eq_some_iff.mp h
      cases h
      rw [List.map_cons, ← ih hrest, Name.toList_of_ofChars? hn]
  · rintro rfl
    induction names with
    | nil => rfl
    | cons n names ih => simp [ih]

/-- A text spells the path whose names are its components that mean something. -/
theorem ofText_eq_ok {text : String} {p : Path} : ofText text = .ok p ↔
    text.toList.head? = some '/' ∧ '\x00' ∉ text.toList ∧
      segments text.toList = p.names.map fun n => n.text.toList := by
  rw [← mapM_ofChars?_eq_some_iff]
  constructor
  · intro h
    unfold ofText at h
    simp only at h
    split at h
    · cases h
    split at h
    · cases h
    next begins =>
    split at h
    · cases h
    next nul =>
    split at h
    · next hnames =>
      cases h
      exact ⟨Classical.not_not.mp begins, nul, hnames⟩
    · cases h
  · rintro ⟨begins, nul, hnames⟩
    have nonempty : text.toList ≠ [] := by
      intro h
      simp [h] at begins
    simp only [ofText, nonempty, begins, nul, hnames, if_false, ne_eq, not_true_eq_false]

theorem toList_toText (p : Path) : p.toText.toList = p.chars := String.toList_ofList

/-- Behind its first separator, a written form cuts into the names. -/
theorem splitOn_tail_chars {p : Path} (hp : p.names ≠ []) :
    p.chars.tail.splitOn '/' = p.names.map fun n => n.text.toList := by
  show (['/'].intercalate (p.names.map fun n => n.text.toList)).splitOn '/' = _
  rw [List.splitOn_intercalate '/' _ (by simpa using hp)]
  simpa using fun n _ => n.separator_not_mem

/-- The components that the written form cuts into: the names, behind an empty one. -/
theorem splitOn_chars (p : Path) :
    p.chars.splitOn '/' =
      [] :: (if p.names = [] then [[]] else p.names.map fun n => n.text.toList) := by
  rw [show p.chars = [] ++ '/' :: p.chars.tail from rfl,
    List.splitOn_append_cons_self_of_not_mem (by simp)]
  split
  · next h => simp [chars, h]
  · next h => rw [splitOn_tail_chars h]

@[simp] theorem segments_chars (p : Path) :
    segments p.chars = p.names.map fun n => n.text.toList := by
  rw [segments, splitOn_chars]
  split
  · next h => simp [h]
  · rw [List.filter_cons_of_neg (by simp), List.filter_eq_self]
    intro cs hcs
    obtain ⟨n, -, rfl⟩ := List.mem_map.mp hcs
    exact decide_eq_true ⟨n.toList_ne_nil, n.toList_ne_dot⟩

theorem nul_not_mem_chars (p : Path) : '\x00' ∉ p.chars := by
  -- The induction has to look at two names at once, for only the last one has no separator behind.
  have inNames : ∀ names : List Name,
      '\x00' ∉ ['/'].intercalate (names.map fun n => n.text.toList) := by
    intro names
    induction names with
    | nil => simp
    | cons n names ih =>
      cases names with
      | nil => simpa using n.nul_not_mem
      | cons m names => simpa [n.nul_not_mem] using ih
  simpa [chars] using inNames p.names

@[simp] theorem ofText_toText (p : Path) : ofText p.toText = .ok p := by
  rw [ofText_eq_ok, toList_toText]
  exact ⟨rfl, p.nul_not_mem_chars, p.segments_chars⟩

theorem toText_injective {p q : Path} (h : p.toText = q.toText) : p = q := by
  have both : ofText p.toText = ofText q.toText := by rw [h]
  simpa using both

@[simp] theorem toText_inj {p q : Path} : p.toText = q.toText ↔ p = q :=
  ⟨toText_injective, fun h => h ▸ rfl⟩

/-- Only the root is written as a separator alone. -/
theorem toText_eq_separator_iff {p : Path} : p.toText = "/" ↔ p = .root := by
  rw [show "/" = root.toText from rfl, toText_inj]

end Path

namespace Spelling

section

variable {text : String} {p : Path}

/-- What a text is normalized to is the written form of the path that it spells. -/
theorem normalize_of_ofText (h : Path.ofText text = .ok p) : normalize text = .ok p.toText := by
  rw [normalize, h]
  rfl

theorem parent_of_ofText (h : Path.ofText text = .ok p) :
    parent text = .ok (p.parent?.map Path.toText) := by
  rw [parent, h]
  rfl

theorem name_of_ofText (h : Path.ofText text = .ok p) : name text = .ok p.lastName := by
  rw [name, h]
  rfl

end

@[simp] theorem normalize_toText (p : Path) : normalize p.toText = .ok p.toText :=
  normalize_of_ofText p.ofText_toText

@[simp] theorem parent_toText (p : Path) : parent p.toText = .ok (p.parent?.map Path.toText) :=
  parent_of_ofText p.ofText_toText

@[simp] theorem name_toText (p : Path) : name p.toText = .ok p.lastName :=
  name_of_ofText p.ofText_toText

end Spelling

end InodeGateway
