import InodeGateway.Proofs.Path.Canonical

/-!
# A path and its neighbours

A name is joined to a path by writing it behind a separator; the parent and the last name are what
stands before and behind the last separator.  Each of these undoes the other, at every depth and for
every spelling.

## Main statements

* `Path.child_inj` — a path below the root is the child of one path under one name
* `Spelling.join_eq_ok_iff` — what is joined is the written form of a child
* `Spelling.cut_toText` — parent and last name are cut off at the last separator
* `Spelling.join_of_normalize`, `Spelling.join_parent_name` — the two round trips
* `Spelling.neighbours_inverse` — joining, and taking parent and last name, are inverse
-/

namespace InodeGateway

namespace Path

variable {p q : Path} {m n : Name}

theorem parent?_eq_none_iff : p.parent? = none ↔ p = .root := by
  constructor
  · intro h
    by_cases hp : p = .root
    · exact hp
    · obtain ⟨q, n, rfl⟩ := exists_child_of_ne_root hp
      rw [parent?_child] at h
      cases h
  · rintro rfl
    rfl

theorem child_inj : p.child m = q.child n ↔ p = q ∧ m = n := by
  constructor
  · intro h
    have hparent := congrArg parent? h
    have hname := congrArg lastName h
    rw [parent?_child, parent?_child] at hparent
    rw [lastName_child, lastName_child] at hname
    exact ⟨Option.some.inj hparent, Name.ext_text hname⟩
  · rintro ⟨rfl, rfl⟩
    rfl

theorem toText_child (p : Path) (n : Name) :
    (p.child n).toText =
      if p.toText = "/" then "/" ++ n.text else p.toText ++ "/" ++ n.text := by
  rw [← String.toList_inj, toList_toText, chars_child]
  by_cases hp : p = .root
  · simp [hp, toText_eq_separator_iff]
  · simp [hp, toText_eq_separator_iff, toList_toText]

end Path

/-- A text has one last separator. -/
theorem eq_of_cut {before before' last last' : List Char} (hlast : '/' ∉ last)
    (hlast' : '/' ∉ last') (h : before ++ '/' :: last = before' ++ '/' :: last') :
    before = before' ∧ last = last' := by
  -- Cut at all separators, both sides have the same last piece and the same pieces before it.
  have cut := congrArg (List.splitOn '/') h
  rw [List.splitOn_append_cons_self, List.splitOn_append_cons_self,
    List.splitOn_eq_singleton hlast, List.splitOn_eq_singleton hlast'] at cut
  obtain ⟨hbefore, hrest⟩ := List.append_inj' cut rfl
  refine ⟨?_, (List.cons.inj hrest).1⟩
  calc before = ['/'].intercalate (before.splitOn '/') := (List.intercalate_splitOn '/').symm
    _ = ['/'].intercalate (before'.splitOn '/') := by rw [hbefore]
    _ = before' := List.intercalate_splitOn '/'

namespace Spelling

variable {path name text : String}

theorem join_eq_ok_iff : join path name = .ok text ↔
    ∃ p n, Path.ofText path = .ok p ∧ Name.ofText name = .ok n ∧ text = (p.child n).toText := by
  constructor
  · intro h
    obtain ⟨n, hn, h⟩ := ok_of_bind h
    obtain ⟨p, hp, h⟩ := ok_of_bind h
    exact ⟨p, n, hp, hn, (Except.ok.inj h).symm⟩
  · rintro ⟨p, n, hp, hn, rfl⟩
    rw [join, hn, hp]
    rfl

/-- The last name is what stands behind the last separator of a written form, the parent what stands
before it. -/
theorem cut_toText (p : Path) {before last : List Char} (hlast : '/' ∉ last)
    (hcut : p.toText.toList = before ++ '/' :: last) :
    p.lastName = String.ofList last ∧ p.parent?.map Path.toText =
      if p = .root then none else some (if before = [] then "/" else String.ofList before) := by
  rw [Path.toList_toText] at hcut
  by_cases hp : p = .root
  · subst hp
    have alone : [] ++ '/' :: [] = before ++ '/' :: last := hcut
    obtain ⟨-, rfl⟩ := eq_of_cut List.not_mem_nil hlast alone
    exact ⟨rfl, rfl⟩
  · obtain ⟨q, n, rfl⟩ := Path.exists_child_of_ne_root hp
    rw [Path.chars_child] at hcut
    obtain ⟨rfl, rfl⟩ := eq_of_cut n.separator_not_mem hlast hcut
    rw [Path.lastName_child, Path.parent?_child, if_neg hp, String.ofList_toList]
    refine ⟨rfl, congrArg some ?_⟩
    by_cases hq : q = .root
    · rw [if_pos hq, if_pos rfl, Path.toText_eq_separator_iff.mpr hq]
    · rw [if_neg hq, if_neg (show q.chars ≠ [] from List.cons_ne_nil _ _)]
      rfl

/-- What was joined from a path and a name has the one as its parent and the other as its last
name. -/
theorem join_of_normalize {path form name : String} (h : normalize path = .ok form)
    (hname : ∃ n, Name.ofText name = .ok n) :
    ∃ text, join path name = .ok text ∧ IsNormal text ∧ parent text = .ok (some form) ∧
      Spelling.name text = .ok name ∧
      text = if form = "/" then "/" ++ name else form ++ "/" ++ name := by
  obtain ⟨p, hp, rfl⟩ := ofText_of_normalize h
  obtain ⟨n, hn⟩ := hname
  have joined := join_eq_ok_iff.mpr ⟨p, n, hp, hn, rfl⟩
  refine ⟨(p.child n).toText, joined, isNormal_toText _, ?_, ?_, ?_⟩
  · rw [parent_toText, Path.parent?_child]
    rfl
  · rw [name_toText, Path.lastName_child, Name.text_of_ofText hn]
  · rw [Path.toText_child, Name.text_of_ofText hn]

theorem join_inj {path path' name name' text : String} (h : IsNormal path) (h' : IsNormal path')
    (hjoin : join path name = .ok text) (hjoin' : join path' name' = .ok text) :
    path = path' ∧ name = name' := by
  obtain ⟨p, rfl⟩ := isNormal_iff.mp h
  obtain ⟨p', rfl⟩ := isNormal_iff.mp h'
  obtain ⟨q, n, hq, hn, rfl⟩ := join_eq_ok_iff.mp hjoin
  obtain ⟨q', n', hq', hn', hsame⟩ := join_eq_ok_iff.mp hjoin'
  rw [Path.ofText_toText] at hq hq'
  cases hq
  cases hq'
  obtain ⟨rfl, rfl⟩ := Path.child_inj.mp (Path.toText_injective hsame)
  exact ⟨rfl, (Name.text_of_ofText hn).symm.trans (Name.text_of_ofText hn')⟩

/-- A path that is no root is joined from its parent and its last name. -/
theorem join_parent_name {text form : String} (h : normalize text = .ok form) (hform : form ≠ "/") :
    ∃ above last, parent text = .ok (some above) ∧ Spelling.name text = .ok last ∧
      (∃ n, Name.ofText last = .ok n) ∧ join above last = .ok form := by
  obtain ⟨p, hp, rfl⟩ := ofText_of_normalize h
  rw [Ne, Path.toText_eq_separator_iff] at hform
  obtain ⟨q, n, rfl⟩ := Path.exists_child_of_ne_root hform
  refine ⟨q.toText, n.text, ?_, ?_, ⟨n, Name.ofText_text n⟩, ?_⟩
  · rw [parent_of_ofText hp, Path.parent?_child]
    rfl
  · rw [name_of_ofText hp, Path.lastName_child]
  · exact join_eq_ok_iff.mpr ⟨q, n, Path.ofText_toText q, Name.ofText_text n, rfl⟩

theorem parent_eq_none_iff {text form : String} (h : normalize text = .ok form) :
    parent text = .ok none ↔ form = "/" := by
  obtain ⟨p, hp, rfl⟩ := ofText_of_normalize h
  rw [parent_of_ofText hp, Path.toText_eq_separator_iff, ← Path.parent?_eq_none_iff]
  simp

/-- The parent and the last name of what was joined are the normal form of the path and the name;
only a root has no parent, and any other path is joined from its parent and its last name.  All this
happens at the last separator of the written form. -/
theorem neighbours_inverse :
    (∀ path form name, normalize path = .ok form → (∃ n, Name.ofText name = .ok n) →
      ∃ text, join path name = .ok text ∧ IsNormal text ∧ parent text = .ok (some form) ∧
        Spelling.name text = .ok name ∧
        text = if form = "/" then "/" ++ name else form ++ "/" ++ name) ∧
    (∀ path path' name name' text, IsNormal path → IsNormal path' →
      join path name = .ok text → join path' name' = .ok text → path = path' ∧ name = name') ∧
    (∀ text form, normalize text = .ok form → form ≠ "/" →
      ∃ above last, parent text = .ok (some above) ∧ Spelling.name text = .ok last ∧
        (∃ n, Name.ofText last = .ok n) ∧ join above last = .ok form) ∧
    (∀ text form, normalize text = .ok form → (parent text = .ok none ↔ form = "/")) ∧
    ∀ text form before last, normalize text = .ok form →
      form.toList = before ++ '/' :: last → '/' ∉ last →
      Spelling.name text = .ok (String.ofList last) ∧ parent text = .ok
        (if form = "/" then none else some (if before = [] then "/" else String.ofList before)) := by
  refine ⟨fun path form name h hname => join_of_normalize h hname,
    fun path path' name name' text h h' hjoin hjoin' => join_inj h h' hjoin hjoin',
    fun text form h hform => join_parent_name h hform, fun text form h => parent_eq_none_iff h,
    fun text form before last h hcut hlast => ?_⟩
  obtain ⟨p, hp, rfl⟩ := ofText_of_normalize h
  obtain ⟨hname, habove⟩ := cut_toText p hlast hcut
  rw [name_of_ofText hp, parent_of_ofText hp, hname, habove]
  simp only [Path.toText_eq_separator_iff, and_self]

end Spelling

end InodeGateway
