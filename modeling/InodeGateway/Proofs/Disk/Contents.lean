import InodeGateway.Proofs.Arguments
import InodeGateway.Proofs.Disk.Ways

/-!
# What stands on a disk

A new object stands at its place and touches the directory above; everything else stays.  A
directory is read name by name.

## Main definitions

* `Disk.Entry.Stands` — an object of a kind: an empty file, or a directory on which the user has
  full rights

## Main statements

* `Disk.entry?_put_self`, `Disk.entry?_put_of_ne` — what stands after an object was put
* `Disk.mem_namesAt` — the names that are read in a directory
-/

namespace InodeGateway.Disk

variable {d : Disk} {p q : Place} {content : Content} {mode : Nat} {name : String}

/-- The content of a new object of a kind. -/
def freshContent : Kind → Content
  | .directory => .directory
  | .file => .file 0

/-- The permission bits of a new object of a kind. -/
def freshMode : Kind → Nat
  | .directory => directoryMode
  | .file => fileMode

/-- An object of a kind, with what the backend makes and the rights that a user has on it. -/
structure Entry.Stands (e : Entry) (user : Nat) (kind : Kind) : Prop where
  content : e.content = freshContent kind
  usable : kind = .directory → ∀ right, e.allows user right

/-- When something changed does not matter. -/
theorem Entry.Stands.touched {e : Entry} {user : Nat} {kind : Kind} (h : e.Stands user kind)
    (moment : Instant) : (e.touched moment).Stands user kind :=
  ⟨h.content, h.usable⟩

theorem Entry.Stands.unlinked {e : Entry} {user : Nat} {kind : Kind} (h : e.Stands user kind)
    (target : String) : e.content ≠ .link target := by
  rw [h.content]
  cases kind <;> simp [freshContent]

/-- An owner has all rights on a directory with the usual permission bits. -/
theorem Entry.allows_own {e : Entry} (hmode : e.mode = directoryMode) (right : Right) :
    e.allows e.owner right = true := by
  rw [allows, bitsFor, if_pos rfl, hmode]
  cases right <;> decide

theorem stands_fresh (d : Disk) (kind : Kind) :
    (d.fresh (freshContent kind) (freshMode kind)).Stands d.userId kind where
  content := rfl
  usable := by
    rintro rfl right
    exact Entry.allows_own (e := d.fresh (freshContent .directory) (freshMode .directory)) rfl right

theorem entry?_put_self (d : Disk) (hp : p ≠ []) (content : Content) (mode : Nat) :
    Disk.entry? (d.put p content mode) p = some (d.fresh content mode) := by
  have above : p.dropLast ≠ p := by
    intro h
    have := congrArg List.length h
    have := List.length_pos_iff.mpr hp
    simp at *
    omega
  simp [put, touch, entry?, OrderedMap.get?_modify, above]

/-- The other objects stay; of the directory above it is noted that it changed. -/
theorem entry?_put_of_ne (d : Disk) (content : Content) (mode : Nat) (h : q ≠ p) :
    Disk.entry? (d.put p content mode) q =
      if p.dropLast = q then (d.entry? q).map fun e => e.touched d.now
      else d.entry? q := by
  simp [put, touch, entry?, OrderedMap.get?_modify, OrderedMap.get?_insert, h.symm]

/-- What can be passed can still be passed. -/
theorem Passable.put (h : d.Passable q) (hq : q ≠ p) (content : Content) (mode : Nat) :
    (d.put p content mode).Passable q := by
  obtain ⟨e, he, hcontent, hexecute⟩ := h
  rw [Passable, entry?_put_of_ne d content mode hq, he]
  split
  · exact ⟨_, rfl, hcontent, hexecute⟩
  · exact ⟨e, rfl, hcontent, hexecute⟩

/-- The names in a directory are those under which something stands in it. -/
theorem mem_namesAt : name ∈ d.namesAt p ↔ d.entry? (p ++ [name]) ≠ none := by
  unfold entry? namesAt
  rw [Ne, OrderedMap.get?_eq_none_iff, Decidable.not_not, List.mem_mergeSort, List.mem_filterMap]
  constructor
  · rintro ⟨q, hq, hlast⟩
    obtain ⟨hkey, hne, rfl⟩ := by simpa using hq
    obtain ⟨init, rfl⟩ := List.getLast?_eq_some_iff.mp hlast
    simpa using hkey
  · intro hkey
    exact ⟨p ++ [name], by simp [hkey], by simp⟩

section Calls

variable {d' : Disk} {path : Place} {e : Entry}

/-- Nothing is made where something stands. -/
theorem make_exists (hfind : d.find .slot path = .ok p) (hp : d.entry? p ≠ none) :
    d.make path content mode = .error .exists := by
  obtain ⟨e, he⟩ := Option.ne_none_iff_exists'.mp hp
  rw [make, hfind]
  simp [bind, Except.bind, he, throw, throwThe, MonadExceptOf.throw]

theorem make_new (hfind : d.find .slot path = .ok p) (hp : d.entry? p = none)
    (hname : path.getLast? ≠ some "") (hwrite : d.allowsAt .write p.dropLast) :
    d.make path content mode = .ok (d.put p content mode) := by
  rw [make, hfind]
  simp [bind, Except.bind, hp, hname, putNew, hwrite]

theorem names_eq (hfind : d.find .target path = .ok p) (hp : d.entry? p = some e)
    (hcontent : e.content = .directory) (hread : e.allows d.userId .read) :
    d.names path = .ok (d.namesAt p) := by
  have read : d.allowsAt .read p := by simpa [allowsAt, hp] using hread
  rw [names, hfind]
  simp [bind, Except.bind, hp, hcontent, read, pure, Except.pure]

theorem names_file (hfind : d.find .target path = .ok p) (hp : d.entry? p = some e)
    {size : Nat} (hcontent : e.content = .file size) : d.names path = .error .notDirectory := by
  rw [names, hfind]
  simp [bind, Except.bind, hp, hcontent, throw, throwThe, MonadExceptOf.throw]

/-! What a call that succeeds has found. -/

theorem stat_ok (h : d.stat path = .ok e) :
    ∃ q, d.find .target path = .ok q ∧ d.entry? q = some e := by
  obtain ⟨q, hq, h⟩ := ok_of_bind h
  cases hentry : d.entry? q with
  | none =>
    simp only [hentry] at h
    cases h
  | some e' =>
    simp only [hentry] at h
    cases h
    exact ⟨q, hq, hentry⟩

theorem names_ok {names : List String} (h : d.names path = .ok names) :
    ∃ q, d.find .target path = .ok q ∧ names = d.namesAt q := by
  obtain ⟨q, hq, h⟩ := ok_of_bind h
  refine ⟨q, hq, ?_⟩
  rcases hthere : (d.entry? q).map Entry.content with _ | _ | _ | target <;>
    simp only [hthere] at h
  · cases h
  · split at h
    · exact (Except.ok.inj h).symm
    · cases h
  · cases h
  · cases h

theorem make_ok (h : d.make path content mode = .ok d') :
    ∃ q, d.find .slot path = .ok q ∧ d.entry? q = none ∧ d' = d.put q content mode := by
  obtain ⟨q, hq, h⟩ := ok_of_bind h
  refine ⟨q, hq, ?_⟩
  cases hentry : d.entry? q with
  | some e =>
    simp only [hentry] at h
    cases h
  | none =>
    simp only [hentry, Option.isSome_none, Bool.false_eq_true, if_false] at h
    have put : d.putNew q content mode = .ok d' := by
      split at h
      · cases h
      · exact h
    unfold putNew at put
    split at put
    · exact ⟨rfl, (Except.ok.inj put).symm⟩
    · cases put

end Calls

end InodeGateway.Disk
