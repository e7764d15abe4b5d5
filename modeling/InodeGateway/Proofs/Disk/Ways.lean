import InodeGateway.Disk.Report
import InodeGateway.Proofs.OrderedMap
import InodeGateway.Proofs.Path.Ancestry

/-!
# Ways along names

On a disk a path leads along its names, as long as directories stand where it passes and there are
no links: to the place of these names, or nowhere if a file is in the way.  No reference to a
directory is met, for names are none.

## Main definitions

* `Path.place` — the place that the names of a path make
* `Disk.Passable` — a directory stands there in which names may be looked up
* `Disk.Unlinked` — no link stands there
* `Disk.Reads` — the written form of a path is short enough, and so are its names

## Main statements

* `Disk.find_child` — the way to a name in a directory
* `Disk.find_below_file` — there is no way to a name below a file
-/

namespace InodeGateway

/-- The place that the names of a path make. -/
def Path.place (p : Path) : Disk.Place := p.names.map Name.text

@[simp] theorem Path.place_child (p : Path) (n : Name) :
    (p.child n).place = p.place ++ [n.text] := by
  simp [place, child]

theorem Path.toText_place (p : Path) : Disk.Place.toText p.place = p.toText := by
  rw [Disk.Place.toText, Disk.Place.chars, toText, chars, place, List.map_map]
  rfl

theorem Path.place_injective {p q : Path} (h : p.place = q.place) : p = q := by
  rw [← toText_inj, ← toText_place, ← toText_place, h]

namespace Disk

variable {d : Disk} {goal : Goal} {budget : Nat} {here : Place} {p : Path} {n m : Name}

/-- A directory stands there in which names may be looked up. -/
def Passable (d : Disk) (here : Place) : Prop :=
  ∃ e, d.entry? here = some e ∧ e.content = .directory ∧ e.allows d.userId .execute

/-- No link stands there. -/
def Unlinked (d : Disk) (here : Place) : Prop :=
  ∀ e, d.entry? here = some e → ∀ target, e.content ≠ .link target

/-- What is read as written: the names of the path are characters alone and short enough, and so is
its written form. -/
structure Reads (p : Path) : Prop where
  wellFormed : ∀ n ∈ p.names, Text.wellFormed n.text = n.text
  name : ∀ n ∈ p.names, Text.byteSize n.text ≤ nameLimit
  whole : Text.byteSize p.toText ≤ pathLimit

theorem Passable.unlinked (h : d.Passable here) : d.Unlinked here := by
  obtain ⟨e, he, hcontent, -⟩ := h
  intro e' he' target
  cases he.symm.trans he'
  simp [hcontent]

/-- A name is a component of its own. -/
theorem name_ne (n : Name) : n.text ≠ "" ∧ n.text ≠ "." ∧ n.text ≠ ".." := by
  obtain ⟨h₁, h₂, h₃, -, -⟩ := n.toList_valid
  refine ⟨?_, ?_, ?_⟩ <;> rintro h <;> simp [h] at h₁ h₂ h₃

/-- One step: from a directory to a name in it. -/
theorem place_step (hhere : d.Passable here) (hn : Text.byteSize n.text ≤ nameLimit)
    (hnext : d.Unlinked (here ++ [n.text])) (hgoal : goal ≠ .file) (rest : List String) :
    d.place goal budget here (n.text :: rest) =
      if goal = .slot ∧ rest.all (· = "") then .ok (here ++ [n.text])
      else if d.entry? (here ++ [n.text]) ≠ none then d.place goal budget (here ++ [n.text]) rest
      else if rest = [] then .ok (here ++ [n.text])
      else .error .noEntry := by
  obtain ⟨e, he, hcontent, hexecute⟩ := hhere
  obtain ⟨h₁, h₂, h₃⟩ := name_ne n
  have passes : d.allowsAt .execute here = true := by simpa [allowsAt, he] using hexecute
  rw [place]
  simp only [he, Option.map_some, hcontent, h₁, h₂, h₃, passes, hgoal, Nat.not_lt.mpr hn, ne_eq,
    not_true_eq_false, if_false, Bool.true_eq_false, false_and]
  split
  · rfl
  · cases hentry : d.entry? (here ++ [n.text]) with
    | none => rfl
    | some there =>
      rw [Option.map_some]
      cases hthere : there.content with
      | link target => exact absurd hthere (hnext _ hentry target)
      | directory => rfl
      | file size => rfl

/-- The way ends at a name in a directory, whether or not something stands there. -/
theorem place_last (hhere : d.Passable here) (hn : Text.byteSize n.text ≤ nameLimit)
    (hnext : d.Unlinked (here ++ [n.text])) (hgoal : goal ≠ .file) :
    d.place goal budget here [n.text] = .ok (here ++ [n.text]) := by
  rw [place_step hhere hn hnext hgoal]
  simp only [List.all_nil, and_true, if_true]
  split
  · rfl
  · rw [place, ite_self]

/-- The way goes on behind a name that stands. -/
theorem place_next (hhere : d.Passable here) (hn : Text.byteSize n.text ≤ nameLimit)
    (hnext : d.Unlinked (here ++ [n.text])) (hgoal : goal ≠ .file)
    (hentry : d.entry? (here ++ [n.text]) ≠ none) (m : Name) (rest : List String) :
    d.place goal budget here (n.text :: m.text :: rest) =
      d.place goal budget (here ++ [n.text]) (m.text :: rest) := by
  rw [place_step hhere hn hnext hgoal, if_neg (by simp [(name_ne m).1]), if_pos hentry]

/-- There is no way on from a file. -/
theorem place_file {e : Entry} (he : d.entry? here = some e) (hfile : e.content ≠ .directory)
    (rest : List String) : d.place goal budget here (n.text :: rest) = .error .notDirectory := by
  rw [place]
  simp [he, hfile]

/-- The way through directories. -/
theorem place_through {names : List Name} (hnames : ∀ n ∈ names, Text.byteSize n.text ≤ nameLimit)
    (hpass : ∀ front, front <+: names → d.Passable (here ++ front.map Name.text))
    (hgoal : goal ≠ .file) (m : Name) (rest : List String) :
    d.place goal budget here (names.map Name.text ++ m.text :: rest) =
      d.place goal budget (here ++ names.map Name.text) (m.text :: rest) := by
  induction names generalizing here with
  | nil => simp
  | cons n names ih =>
    have first : d.Passable here := by simpa using hpass [] (List.nil_prefix)
    have next : d.Passable (here ++ [n.text]) := by simpa using hpass [n] (by simp)
    obtain ⟨k, more, hmore⟩ : ∃ (k : Name) (more : List String),
        names.map Name.text ++ m.text :: rest = k.text :: more := by
      cases names with
      | nil => exact ⟨m, rest, rfl⟩
      | cons k names => exact ⟨k, names.map Name.text ++ m.text :: rest, rfl⟩
    have stands : d.entry? (here ++ [n.text]) ≠ none := by
      obtain ⟨e, he, -⟩ := next
      simp [he]
    rw [List.map_cons, List.cons_append, hmore,
      place_next first (hnames n List.mem_cons_self) next.unlinked hgoal stands, ← hmore,
      ih (fun k hk => hnames k (List.mem_cons_of_mem _ hk)) fun front hfront => ?_]
    · simp
    · simpa using hpass (n :: front) (by simpa using hfront)

/-- What is read as written is looked for as written. -/
theorem find_eq (hp : Reads p) : d.find goal p.place = d.place goal linkLimit [] p.place := by
  have same : p.place.map Text.wellFormed = p.place := by
    rw [Path.place, List.map_map]
    exact List.map_congr_left hp.wellFormed
  rw [find]
  simp only [same, Path.toText_place, if_neg (Nat.not_lt.mpr hp.whole)]

section Found

variable (hpass : ∀ {q : Path}, q.contains p → d.Passable q.place) (hgoal : goal ≠ .file)
include hpass hgoal

/-- Through directories the way leads on from the place of a path. -/
theorem place_from (hnames : ∀ k ∈ p.names, Text.byteSize k.text ≤ nameLimit) (n : Name)
    (rest : List String) :
    d.place goal budget [] (p.place ++ n.text :: rest) =
      d.place goal budget p.place (n.text :: rest) :=
  place_through hnames (fun front hfront => hpass (q := ⟨front⟩) (Path.contains_iff.mpr hfront))
    hgoal n rest

/-- The way to a name in a directory, whether or not something stands there. -/
theorem find_child (hread : Reads (p.child n)) (hnext : d.Unlinked (p.child n).place) :
    d.find goal (p.child n).place = .ok (p.child n).place := by
  rw [Path.place_child] at hnext
  rw [find_eq hread, Path.place_child,
    place_from hpass hgoal fun k hk => hread.name k (by simp [Path.child, hk]),
    place_last (hpass p.contains_self) (hread.name n (by simp [Path.child])) hnext hgoal]

/-- There is no way to a name below a file. -/
theorem find_below_file {e : Entry} {size : Nat} (he : d.entry? (p.child m).place = some e)
    (hfile : e.content = .file size) (hread : Reads ((p.child m).child n)) :
    d.find goal ((p.child m).child n).place = .error .notDirectory := by
  rw [Path.place_child] at he
  have unlinked : d.Unlinked (p.place ++ [m.text]) := by
    intro e' he' target
    cases he.symm.trans he'
    simp [hfile]
  rw [find_eq hread, Path.place_child, Path.place_child, List.append_assoc, List.singleton_append,
    place_from hpass hgoal fun k hk => hread.name k (by simp [Path.child, hk]),
    place_next (hpass p.contains_self) (hread.name m (by simp [Path.child])) unlinked hgoal
      (by simp [he]),
    place_file he (by simp [hfile])]

end Found

end Disk

end InodeGateway
