import InodeGateway.Proofs.Backend.Keeping
import InodeGateway.Proofs.Memory.Tree

/-!
# The tree in memory is kept

With full rights everywhere and no failure wanted, the backend in memory keeps the tree of its
nodes.  It has room for every path, and looks no further than at its nodes when a name below a file
is asked for.

## Main definitions

* `Memory.Shows` — the state shows a tree of empty objects of one owner

## Main statements

* `Memory.keepsTree` — the backend keeps that tree
-/

namespace InodeGateway.Memory

variable {m : Memory} {owner : Owner} {T : Kinds} {p : Path} {n : Name}

/-- Below a path, an object is admitted where nothing stands and a directory is above. -/
theorem admits_child (calm : m.failures = {}) (full : m.overrides = {}) (p : Path) (n : Name) :
    m.admits (p.child n) =
      if m.kindAt? (p.child n) ≠ none then
        .error (.backend .alreadyExists "Object already exists" (some (p.child n).toText))
      else if m.kindAt? p = some .directory then .ok ()
      else if m.kindAt? p = some .file then
        .error (.backend .io "Parent is not a collection" (some p.toText))
      else .error (missing p) := by
  have taken : m.nodes.contains (p.child n) = (m.nodes.get? (p.child n)).isSome := rfl
  rw [admits, checkFailure_calm calm, Path.parent?_child]
  simp only [node?_clear (checkFailure_calm calm p), permissionsAt_calm calm, full, taken, kindAt?]
  obtain hthere | ⟨there, hthere⟩ := (m.nodes.get? (p.child n)).eq_none_or_eq_some
  · obtain habove | ⟨above, habove⟩ := (m.nodes.get? p).eq_none_or_eq_some
    · simp [hthere, habove, bind, Except.bind]
    · cases hkind : above.kind <;> simp [hthere, habove, hkind, bind, Except.bind] <;> rfl
  · simp [hthere, bind, Except.bind]
    rfl

/-- The nodes are those of the tree, each empty and of this owner; all rights are granted, and no
failure is wanted. -/
structure Shows (owner : Owner) (T : Kinds) (m : Memory) : Prop where
  calm : m.failures = {}
  full : m.overrides = {}
  maker : m.owner = owner
  tree : m.IsTree
  kinds : m.kindAt? = T
  plain : ∀ {p node}, m.nodes.get? p = some node →
    node.sizeBytes = 0 ∧ ⟨node.ownerName, node.ownerZone⟩ = owner

namespace Shows

theorem withSessions (h : Shows owner T m) (sessions : Sessions) :
    Shows owner T { m with sessions := sessions } :=
  ⟨h.calm, h.full, h.maker, h.tree.congr rfl, h.kinds, h.plain⟩

theorem insert (h : Shows owner T m) (hp : T p = some .directory) (hchild : T (p.child n) = none)
    (kind : Kind) : Shows owner (T.put (p.child n) kind) (m.insert (p.child n) kind 0 m.owner) := by
  have free : m.childrenAt (p.child n) = [] := childrenAt_eq_nil (by rw [h.kinds, hchild])
  refine ⟨?_, ?_, ?_, h.tree.insert free (fun hq => ?_) kind 0 m.owner, ?_, ?_⟩
  · rw [Memory.insert, Path.parent?_child]
    exact h.calm
  · rw [Memory.insert, Path.parent?_child]
    exact h.full
  · rw [Memory.insert, Path.parent?_child]
    exact h.maker
  · rw [Path.parent?_child] at hq
    cases hq
    rw [h.kinds, hp]
  · funext q
    rw [kindAt?_insert, h.kinds]
    rfl
  · intro q node hnode
    rw [get?_nodes_insert] at hnode
    split at hnode
    · cases hnode
      exact ⟨rfl, h.maker⟩
    · split at hnode
      · obtain ⟨old, hold, rfl⟩ := Option.map_eq_some_iff.mp hnode
        have plain := h.plain hold
        unfold link
        split <;> exact plain
      · exact h.plain hnode

/-- A new tree shows its root. -/
theorem empty (owner : Owner) (capacityBytes : Num) (now : Instant) :
    Shows owner Kinds.bare (Memory.empty owner capacityBytes now) where
  calm := rfl
  full := rfl
  maker := rfl
  tree := (@Tended.created owner capacityBytes now [] _ rfl).isTree
  kinds := by
    funext q
    rw [Memory.empty, kindAt?_insert]
    rfl
  plain := by
    intro q node hnode
    rw [Memory.empty, get?_nodes_insert] at hnode
    split at hnode
    · cases hnode
      exact ⟨rfl, rfl⟩
    · split at hnode <;> cases hnode

end Shows

theorem keepsTree (owner : Owner) (fits : Path → Prop) :
    backend.KeepsTree (Shows owner) (fun s T m => m.sessions.isReleased s = false ∧ Shows owner T m)
      fits (· = owner) .notFound where
  openSession := by
    rintro T m h
    exact ⟨_, _, rfl, m.sessions.isReleased_acquire, h.withSessions _⟩
  release := by
    rintro s T m ⟨hs, h⟩
    have after := h.withSessions (m.sessions.release s)
    rw [show backend.release s = Memory.release s from rfl, Memory.release, Call.answer_of, hs]
    cases hf : m.failsReleases <;> simpa [hf] using after
  readable := by
    rintro s T m ⟨hs, h⟩
    refine (answer_within hs).trans ?_
    simp only [Path.ofText_toText, permissionsAt_calm h.calm, h.full]
    rfl
  stat := by
    rintro s T m p kind ⟨hs, h⟩ hkind -
    obtain ⟨node, hnode, rfl⟩ := Option.map_eq_some_iff.mp ((congrFun h.kinds p).trans hkind)
    refine ⟨metadataOf p node, ?_, rfl, h.plain hnode⟩
    rw [answer_stat h.calm hs, hnode]
  missing := by
    rintro s T m p n kind ⟨hs, h⟩ - hchild -
    have hnode := Option.map_eq_none_iff.mp ((congrFun h.kinds (p.child n)).trans hchild)
    refine ⟨missing (p.child n), ?_, ?_⟩
    · rw [answer_stat h.calm hs, hnode]
    · exact ⟨_, _, by rw [ite_self]; rfl⟩
  occupied := by
    rintro s T m p n there kind ⟨hs, h⟩ - hchild -
    have refused : (backend.create s (p.child n).toText kind).answer m = (.error
        (.backend .alreadyExists "Object already exists" (some (p.child n).toText)), m) := by
      rw [answer_create hs, createNode, admits_child h.calm h.full, h.kinds, hchild,
        if_pos (by simp)]
    exact ⟨_, refused, _, _, rfl⟩
  parentless := by
    rintro s T m p n kind ⟨hs, h⟩ hkind hchild -
    have refused : (backend.create s (p.child n).toText kind).answer m = (.error
        (.backend .io "Parent is not a collection" (some p.toText)), m) := by
      rw [answer_create hs, createNode, admits_child h.calm h.full, h.kinds, hchild,
        if_neg (by simp), hkind, if_neg (by simp), if_pos rfl]
    exact ⟨_, refused, _, _, rfl⟩
  create := by
    rintro s T m p n kind ⟨hs, h⟩ hkind hchild -
    refine ⟨_, ?_, ?_, h.insert hkind hchild kind⟩
    · rw [answer_create hs, createNode, admits_child h.calm h.full, h.kinds, hchild,
        if_neg (by simp), hkind, if_pos rfl]
    · rwa [Memory.insert, Path.parent?_child]
  list := by
    rintro s T m p ⟨hs, h⟩ hkind -
    refine ⟨_, by rw [answer_list h.calm hs, h.kinds, hkind], fun text => ?_⟩
    rw [List.mem_map]
    constructor
    · rintro ⟨q, hq, rfl⟩
      obtain ⟨n, rfl⟩ := Path.exists_child_of_parent? (h.tree.below hq)
      exact ⟨n, h.kinds ▸ (h.tree.linked (Path.parent?_child p n)).mpr hq, rfl⟩
    · rintro ⟨n, hn, rfl⟩
      rw [← h.kinds] at hn
      exact ⟨p.child n, (h.tree.linked (Path.parent?_child p n)).mp hn, rfl⟩
  unlisted := by
    rintro s T m p ⟨hs, h⟩ hkind -
    exact ⟨_, by rw [answer_list h.calm hs, h.kinds, hkind], _, _, rfl⟩

end InodeGateway.Memory
