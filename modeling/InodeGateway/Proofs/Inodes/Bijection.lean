import InodeGateway.Proofs.Inodes.Coherence

/-!
# The table over whole histories

Whatever is done with a table and its counter, in whatever order and with whatever outcome, the
table stays an exact bijection between positive handles and written forms of paths.

## Main definitions

* `Inodes.Deed` — what can be done with a table and its counter
* `Inodes.performAll` — deeds done one after another, with their answers
* `Inodes.ExactBijection` — the two look-ups undo each other and see the same pairs

## Main statements

* `Inodes.performAll_exactBijection` — every history from the empty table ends in a bijection, and
  no registration in it fails for want of undoing
-/

namespace InodeGateway.Inodes

/-- What can be done with a table and its counter. -/
inductive Deed where
  /-- Writes a pair of a handle and the path that a text spells. -/
  | register (h : Handle) (text : String)
  /-- Looks for the handle of a path and draws one on first sight. -/
  | sight (text : String)
  | pathOf (h : Handle)
  | handleOf (text : String)
  | entries
  /-- Draws the next handle. -/
  | draw
  | reserveRoot
  /-- Looks at the handle drawn last. -/
  | peek
  deriving DecidableEq, Repr

/-- What is answered to a deed that does not fail. -/
inductive Reply where
  | done
  | handle (h : Handle)
  | path (p : Path)
  | found (h : Option Handle)
  | entries (list : List (Handle × Path))
  deriving DecidableEq, Repr

def Deed.perform (t : Inodes) : Deed → Except Refusal Reply × Inodes
  | .register h text => ((t.register h text).1.map fun _ => .done, (t.register h text).2)
  | .sight text => ((t.sight text).1.map .handle, (t.sight text).2)
  | .pathOf h => ((t.pathOf h).map .path, t)
  | .handleOf text => ((t.handleOf text).map .found, t)
  | .entries => (.ok (.entries t.entries), t)
  | .draw => (.ok (.handle t.draw.1), t.draw.2)
  | .reserveRoot => (t.reserveRoot.1.map .handle, t.reserveRoot.2)
  | .peek => (.ok (.handle t.last), t)

/-- Does deeds one after another.  One that fails does not keep the next from being done. -/
def performAll (t : Inodes) : List Deed → List (Except Refusal Reply) × Inodes
  | [] => ([], t)
  | d :: rest =>
    let (reply, after) := d.perform t
    let (replies, last) := performAll after rest
    (reply :: replies, last)

/-- The table pairs positive handles with written forms of paths, one to one. -/
structure ExactBijection (t : Inodes) : Prop where
  /-- The path of a handle leads back to the handle. -/
  handleOf_pathOf : ∀ h p, t.pathOf h = .ok p → t.handleOf p.toText = .ok (some h)
  /-- The handle of a spelling leads to the normal form of the spelling. -/
  pathOf_handleOf : ∀ text h, t.handleOf text = .ok (some h) →
    ∃ p, t.pathOf h = .ok p ∧ Spelling.normalize text = .ok p.toText
  /-- The direction from handles has as many keys as the table has entries. -/
  handles_size : t.paths.keys.Nodup ∧ t.paths.keys.length = t.size
  /-- So has the direction from paths. -/
  paths_size : t.handles.keys.Nodup ∧ t.handles.keys.length = t.size
  /-- Registered handles are positive. -/
  positive : ∀ h ∈ t.paths.keys, 0 < h
  /-- Registered paths are their own normal forms, in both directions. -/
  normal : ∀ p ∈ t.paths.values ++ t.handles.keys, Spelling.normalize p.toText = .ok p.toText

variable {t : Inodes}

/-- Two directions that hold the same pairs are a bijection. -/
theorem Coherent.exactBijection (ht : t.Coherent) : t.ExactBijection where
  handleOf_pathOf h p hp := by
    rw [pathOf_eq_ok_iff, ht.pathGet?_iff] at hp
    exact handleOf_eq_ok_iff.mpr ⟨p, Path.ofText_toText p, ht.handleGet?_iff.mpr hp⟩
  pathOf_handleOf text h hh := by
    obtain ⟨p, htext, hp⟩ := handleOf_eq_ok_iff.mp hh
    rw [ht.handleGet?_iff, ← ht.pathGet?_iff] at hp
    exact ⟨p, pathOf_eq_ok_iff.mpr hp, Spelling.normalize_of_ofText htext⟩
  handles_size := ⟨ht.handles_nodup, by simp [OrderedMap.keys, size, OrderedMap.size]⟩
  paths_size := ⟨ht.paths_nodup, by simp [OrderedMap.keys, size, OrderedMap.size, ht.handles_eq]⟩
  positive := ht.positive
  normal p _ := Spelling.normalize_toText p

/-- No deed breaks the coherence of the table. -/
theorem Coherent.perform (ht : t.Coherent) (d : Deed) : (d.perform t).2.Coherent := by
  cases d with
  | register h text => exact ht.register h text
  | sight text => exact ht.sight text
  | draw => exact ht.draw
  | reserveRoot => exact ht.reserveRoot
  | pathOf | handleOf | entries | peek => exact ht

theorem Coherent.performAll (ht : t.Coherent) (deeds : List Deed) :
    (t.performAll deeds).2.Coherent := by
  induction deeds generalizing t with
  | nil => exact ht
  | cons d rest ih => exact ih (ht.perform d)

/-- No deed is refused because a registration could not be undone. -/
theorem Deed.perform_ne_undoFailed (d : Deed) (h : Handle) (path : String) :
    (d.perform t).1 ≠ .error (.undoFailed h path) := by
  intro heq
  cases d with
  | register k text => exact code_of_register (error_of_map heq) rfl
  | sight text => exact code_of_sight (error_of_map heq) rfl
  | pathOf k =>
    have refused := error_of_map heq
    unfold Inodes.pathOf at refused
    split at refused <;> cases refused
  | handleOf text =>
    have refused : t.handleOf text = _ := error_of_map heq
    unfold Inodes.handleOf at refused
    cases htext : Path.ofText text with
    | error r =>
      rw [htext] at refused
      cases refused
      exact absurd (Path.code_of_ofText htext) (by simp [Refusal.code])
    | ok p =>
      rw [htext] at refused
      cases refused
  | reserveRoot =>
    have refused := error_of_map heq
    unfold Inodes.reserveRoot at refused
    split at refused <;> cases refused
  | entries | draw | peek => cases heq

theorem performAll_ne_undoFailed (deeds : List Deed) (h : Handle) (path : String) :
    ∀ reply ∈ (t.performAll deeds).1, reply ≠ .error (.undoFailed h path) := by
  induction deeds generalizing t with
  | nil => simp [performAll]
  | cons d rest ih =>
    intro reply hreply
    rcases List.mem_cons.mp hreply with rfl | hreply
    · exact d.perform_ne_undoFailed h path
    · exact ih reply hreply

/-- Every history of the empty table ends in a bijection, and no registration of the history fails
for want of undoing. -/
theorem performAll_exactBijection (deeds : List Deed) :
    (performAll {} deeds).2.ExactBijection ∧
      ∀ reply ∈ (performAll {} deeds).1, ∀ h path, reply ≠ .error (.undoFailed h path) :=
  ⟨(Coherent.empty.performAll deeds).exactBijection,
    fun reply hreply h path => performAll_ne_undoFailed deeds h path reply hreply⟩

end InodeGateway.Inodes
