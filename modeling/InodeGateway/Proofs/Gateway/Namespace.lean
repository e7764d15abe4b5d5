import InodeGateway.Proofs.Attributes
import InodeGateway.Proofs.Backend.Keeping
import InodeGateway.Proofs.Gateway.Density
import Mathlib.Data.Set.Insert

/-!
# What a gateway tells about a tree

Behind a backend that keeps a tree, with nothing in the way, what clients are told depends on the
tree and on the table alone.  The tree and the table together are a namespace; the answers to
requests are functions of it, and so is the namespace afterwards.

## Main definitions

* `Namespace` — what stands where, and which handles stand for what
* `Told`, `Answer.told` — what is compared of answers: no owners, modes or times
* `Namespace.tell`, `Namespace.after` — the answer to a request, and the namespace afterwards
* `Namespace.Whole` — exactly what exists is registered

## Main statements

* `Namespace.Whole.after` — a namespace stays whole
-/

namespace InodeGateway

/-- A request for a new object that passes names a positive handle, and the name and the kind that
are wanted. -/
theorem Creation.check_ok {parent : Handle} {name kind : String} {owner : Principal} {mode : Num}
    {wanted : Creation} (h : check parent name kind owner mode = .ok wanted) :
    0 < parent ∧ Name.ofText name = .ok wanted.name ∧ Kind.ofText? kind = some wanted.kind := by
  obtain ⟨_, hparent, h⟩ := ok_of_bind h
  obtain ⟨n, hname, h⟩ := ok_of_bind h
  obtain ⟨k, hkind, h⟩ := ok_of_bind h
  obtain ⟨_, -, h⟩ := ok_of_bind h
  obtain ⟨_, -, h⟩ := ok_of_bind h
  cases h
  refine ⟨checkHandle_eq_ok_iff.mp hparent, hname, ?_⟩
  unfold checkKind at hkind
  split at hkind
  · next heq => rwa [← Except.ok.inj hkind]
  · cases hkind

/-- What clients see of an answer, but for owners, modes, times and space. -/
inductive Told where
  | object (kind : Kind) (size : Num)
  | handle (h : Handle)
  | names (entries : Set (String × Handle × Kind))
  | done
  | other

/-- The request does not ask about rights or space, and the name in it, if any, fits where the table
says that it is looked for. -/
def Request.Fits (fits : Path → Prop) (t : Inodes) : Request → Prop
  | .create parent name _ _ _ | .lookup parent name =>
    ∀ p n, Gateway.pathFor t parent = .ok p → Name.ofText name = .ok n → fits (p.child n)
  | .checkAccess _ _ | .statistics => False
  | _ => True

/-- Name, handle and kind of what an entry describes. -/
def DirectoryEntry.named (e : DirectoryEntry) : String × Handle × Kind :=
  (e.name, e.handle, e.attributes.kind)

def Answer.told : Answer → Told
  | .attributes a => .object a.kind a.size
  | .handle h => .handle h
  | .entries l => .names {x | x ∈ l.map DirectoryEntry.named}
  | .done => .done
  | .granted _ | .statistics _ => .other

/-- What stands where, and which handles stand for what. -/
structure Namespace where
  kinds : Kinds
  table : Inodes

namespace Namespace

variable {α : Type} {N : Namespace} {fits : Path → Prop} {below : Code} {r : Request} {h : Handle}
  {p q : Path} {n : Name}

/-- The class of a refusal in its place. -/
def coded (r : Except Refusal α) : Except Code α := r.mapError Refusal.code

/-- What speaks against a new object of this name. -/
def admits (N : Namespace) (p : Path) (n : Name) : Except Code Unit :=
  if N.kinds p ≠ some .directory then .error .ioFailure
  else if N.kinds (p.child n) ≠ none then .error .alreadyExists
  else .ok ()

/-- The place and the kind of a new object, unless something speaks against it. -/
def slot (N : Namespace) (parent : Handle) (name kind : String) (owner : Principal) (mode : Num) :
    Except Code (Path × Kind) := do
  let wanted ← coded (Creation.check parent name kind owner mode)
  let p ← coded (N.table.pathOf parent)
  N.admits p wanted.name
  return (p.child wanted.name, wanted.kind)

/-- The handle of the path above; above the root, that is the root's own. -/
def above (N : Namespace) (p : Path) : Except Code Told :=
  match p.parent? with
  | none => .ok (.handle Handle.root)
  | some q => .handle <$> coded (N.table.sightPath q).1

/-- What a directory holds. -/
def members (N : Namespace) (p : Path) : Set (String × Handle × Kind) :=
  {x | ∃ n h kind, N.kinds (p.child n) = some kind ∧ (h, p.child n) ∈ N.table.entries ∧
    x = (n.text, h, kind)}

/-- The part of it that stands under written paths. -/
def rows (N : Namespace) (p : Path) (texts : List String) : Set (String × Handle × Kind) :=
  {x | ∃ n h kind, (p.child n).toText ∈ texts ∧ N.kinds (p.child n) = some kind ∧
    (h, p.child n) ∈ N.table.entries ∧ x = (n.text, h, kind)}

/-- Looks at handles one after another. -/
def known (N : Namespace) : List Handle → Except Code Unit
  | [] => .ok ()
  | h :: rest => do
    let _ ← coded (Gateway.pathFor N.table h)
    N.known rest

/-- What is told in answer to a request, where a name below a file is not found for the reason
`below`. -/
def tell (below : Code) (N : Namespace) : Request → Except Code Told
  | .getAttributes h => do
    let p ← coded (Gateway.pathFor N.table h)
    match N.kinds p with
    | some kind => return .object kind 0
    | none => throw .notFound
  | .create parent name kind owner mode => do
    let place ← N.slot parent name kind owner mode
    .handle <$> coded (N.table.sightPath place.1).1
  | .list h => do
    let p ← coded (Gateway.pathFor N.table h)
    match N.kinds p with
    | some .directory => return .names (N.members p)
    | some .file => throw .ioFailure
    | none => throw .notFound
  | .lookup parent name => do
    let p ← coded (Gateway.pathFor N.table parent)
    if name = "." then return .handle parent
    else if name = ".." then N.above p
    else
      let n ← coded (Name.ofText name)
      match N.kinds (p.child n), N.kinds p with
      | some _, _ => .handle <$> coded (N.table.sightPath (p.child n)).1
      | none, some .file => throw below
      | none, _ => throw .notFound
  | .parentOf h => do N.above (← coded (Gateway.pathFor N.table h))
  | .commit h => do
    let _ ← coded (Gateway.pathFor N.table h)
    return .done
  | .unoffered what => do
    N.known what.handles
    throw .notSupported
  | .checkAccess _ _ | .statistics => return .other

/-- The namespace after a request: only a new object changes it. -/
def after (N : Namespace) : Request → Namespace
  | .create parent name kind owner mode =>
    match N.slot parent name kind owner mode with
    | .ok (p, kind) => ⟨N.kinds.put p kind, (N.table.sightPath p).2⟩
    | .error _ => N
  | _ => N

/-- Exactly what exists is registered, whatever has children is a directory, and all of it fits. -/
structure Whole (fits : Path → Prop) (N : Namespace) : Prop where
  dense : N.table.Dense
  rooted : (Handle.root, Path.root) ∈ N.table.entries
  registered : ∀ p, N.kinds p ≠ none ↔ ∃ h, (h, p) ∈ N.table.entries
  closed : N.kinds.Closed
  fits : ∀ p, N.kinds p ≠ none → fits p

@[simp] theorem coded_ok (x : α) : coded (.ok x) = .ok x := rfl

theorem coded_eq_ok {r : Except Refusal α} {x : α} (hr : coded r = .ok x) : r = .ok x := by
  cases r with
  | error e => cases hr
  | ok y => exact congrArg Except.ok (Except.ok.inj hr)

theorem admits_ok_iff :
    N.admits p n = .ok () ↔ N.kinds p = some .directory ∧ N.kinds (p.child n) = none := by
  unfold admits
  grind

/-- A new object stands at a free name below a directory. -/
theorem slot_ok {parent : Handle} {name word : String} {owner : Principal} {mode : Num}
    {kind : Kind} (hslot : N.slot parent name word owner mode = .ok (q, kind)) :
    ∃ p n, Gateway.pathFor N.table parent = .ok p ∧ Name.ofText name = .ok n ∧ q = p.child n ∧
      N.kinds p = some .directory ∧ N.kinds q = none := by
  unfold slot at hslot
  obtain ⟨wanted, hwanted, hslot⟩ := ok_of_bind hslot
  obtain ⟨p, hp, hslot⟩ := ok_of_bind hslot
  obtain ⟨_, hadmits, hslot⟩ := ok_of_bind hslot
  cases hslot
  obtain ⟨hpos, hname, -⟩ := Creation.check_ok (coded_eq_ok hwanted)
  have hpath := Inodes.pathOf_eq_ok_iff.mp (coded_eq_ok hp)
  exact ⟨p, wanted.name, Gateway.pathFor_eq_ok_iff.mpr ⟨hpos, hpath⟩, hname, rfl,
    admits_ok_iff.mp hadmits⟩

theorem rows_nil : N.rows p [] = ∅ := by
  ext x
  simp [rows]

/-- Under the written paths of all that is there stands all that the directory holds. -/
theorem rows_eq_members {texts : List String}
    (h : ∀ text, text ∈ texts ↔ ∃ n, N.kinds (p.child n) ≠ none ∧ text = (p.child n).toText) :
    N.rows p texts = N.members p := by
  ext x
  constructor
  · rintro ⟨n, h, kind, -, hentry⟩
    exact ⟨n, h, kind, hentry⟩
  · rintro ⟨n, h', kind, hkind, hentry⟩
    exact ⟨n, h', kind, (h _).mpr ⟨n, by simp [hkind], rfl⟩, hkind, hentry⟩

namespace Whole

/-- A path is registered once it exists, and its handle is found. -/
theorem sightPath_known (whole : N.Whole fits) (hp : N.kinds p ≠ none) :
    ∃ h, (h, p) ∈ N.table.entries ∧ N.table.sightPath p = (.ok h, N.table) := by
  obtain ⟨h, hmem⟩ := (whole.registered p).mp hp
  exact ⟨h, hmem, Inodes.sightPath_of_some (whole.dense.coherent.handleGet?_iff.mpr hmem)⟩

/-- What a handle stands for exists. -/
theorem kinds_of_pathFor (whole : N.Whole fits) (hp : Gateway.pathFor N.table h = .ok p) :
    ∃ kind, N.kinds p = some kind := by
  have hmem := (Gateway.pathFor_iff whole.dense.coherent).mp hp
  exact Option.ne_none_iff_exists'.mp ((whole.registered p).mpr ⟨h, hmem⟩)

/-- One more written path is one more row. -/
theorem rows_cons (whole : N.Whole fits) {kind : Kind} (hkind : N.kinds (p.child n) = some kind)
    (hmem : (h, p.child n) ∈ N.table.entries) (texts : List String) :
    N.rows p ((p.child n).toText :: texts) = insert (n.text, h, kind) (N.rows p texts) := by
  ext x
  rw [Set.mem_insert_iff]
  constructor
  · rintro ⟨n', h', kind', htext, hkind', hmem', rfl⟩
    rcases List.mem_cons.mp htext with heq | htext
    · obtain rfl : n' = n := by simpa [Path.child] using Path.toText_inj.mp heq
      cases hkind.symm.trans hkind'
      cases whole.dense.coherent.handle_unique hmem hmem'
      exact .inl rfl
    · exact .inr ⟨n', h', kind', htext, hkind', hmem', rfl⟩
  · rintro (rfl | ⟨n', h', kind', htext, hentry⟩)
    · exact ⟨n, h, kind, List.mem_cons_self, hkind, hmem, rfl⟩
    · exact ⟨n', h', kind', List.mem_cons_of_mem _ htext, hentry⟩

/-- A namespace stays whole. -/
theorem after (whole : N.Whole fits) (hr : r.Fits fits N.table) : (N.after r).Whole fits := by
  cases r with
  | create parent name word owner mode =>
    cases hslot : N.slot parent name word owner mode with
    | error e => simpa only [Namespace.after, hslot] using whole
    | ok place =>
      obtain ⟨q, kind⟩ := place
      obtain ⟨p, n, hp, hname, rfl, hdirectory, hfree⟩ := slot_ok hslot
      simp only [Namespace.after, hslot]
      have absent : N.table.handles.get? (p.child n) = none :=
        whole.dense.coherent.handleGet?_eq_none fun k hmem =>
          (whole.registered _).mpr ⟨k, hmem⟩ hfree
      have pairs : (N.table.sightPath (p.child n)).2.entries =
          N.table.entries ++ [(N.table.last + 1, p.child n)] := by
        rw [whole.dense.sightPath_of_none absent, whole.dense.entries_add_next]
      constructor
      · exact whole.dense.sightPath _
      · exact (N.table.entries_prefix_sightPath _).subset whole.rooted
      · intro q
        rw [pairs]
        by_cases hq : q = p.child n <;> simp [Kinds.put, hq, whole.registered]
      · exact whole.closed.put hdirectory hfree kind
      · intro q hq
        dsimp only at hq
        by_cases hqn : q = p.child n
        · exact hqn ▸ hr p n hp hname
        · rw [Kinds.put_of_ne _ _ hqn] at hq
          exact whole.fits q hq
  | _ => exact whole

/-- A namespace stays as it is where an error is told. -/
theorem after_of_told {c : Code} (whole : N.Whole fits) (h : N.tell below r = .error c) :
    N.after r = N := by
  cases r with
  | create parent name word owner mode =>
    cases hslot : N.slot parent name word owner mode with
    | error _ => simp only [Namespace.after, hslot]
    | ok place =>
      obtain ⟨h', hh⟩ := whole.dense.sightPath_ok place.1
      rw [tell, hslot] at h
      simp [hh, bind, Except.bind] at h
  | _ => rfl

end Whole

end Namespace

end InodeGateway
