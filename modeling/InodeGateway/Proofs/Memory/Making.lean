import InodeGateway.Proofs.Gateway.Creation

/-!
# Making an object in the tree in memory

What speaks against making an object, in the order in which it is found, and what is different when
the object was made.

## Main definitions

* `Memory.obstacles` — what speaks against making an object, as the codes that are reported
* `Memory.Unopposed` — nothing speaks against it
* `Memory.Gains` — one object was made, and nothing else is different
* `Memory.Turns` — what can be done with a tree at once, within sessions and past them

## Main statements

* `Memory.admits_eq_ok_iff`, `Memory.code?_of_admits` — an object is made unless there are
  obstacles, and the first of them is reported
* `Memory.Reachable.gains` — what a tree gains when an object is made
* `Memory.Turns.kindAt?_ne_none` — whatever is done, no object is gone afterwards
-/

namespace InodeGateway.Memory

variable {m n later : Memory} {p c q : Path} {kind : Kind}

/-- What speaks against making an object at `c` in the directory at `p`, as the codes that are
reported.  What is found first comes first. -/
def obstacles (m : Memory) (p c : Path) : List Code :=
  (m.failures.get? c).toList.map Reason.code ++
    ((if m.nodes.contains c then [.alreadyExists] else []) ++
    ((m.failures.get? p).toList.map Reason.code ++
    ((match m.kindAt? p with
      | none => [.notFound]
      | some .file => [.ioFailure]
      | some .directory => []) ++
    if ((m.overrides.get? p).getD {}).write then [] else [.permissionDenied])))

/-- Nothing speaks against making an object at `c` in the directory at `p`. -/
structure Unopposed (m : Memory) (p c : Path) : Prop where
  /-- No failure is wanted at either path. -/
  calm : m.failures.get? c = none ∧ m.failures.get? p = none
  vacant : m.nodes.get? c = none
  directory : m.kindAt? p = some .directory
  /-- Writing was not withdrawn. -/
  writable : ((m.overrides.get? p).getD {}).write = true

theorem obstacles_eq_nil_iff : m.obstacles p c = [] ↔ m.Unopposed p c := by
  have vacant : m.nodes.contains c = (m.nodes.get? c).isSome := rfl
  constructor
  · intro h
    simp only [obstacles, List.append_eq_nil_iff, List.map_eq_nil_iff, Option.toList_eq_nil_iff,
      vacant] at h
    obtain ⟨hc, hfree, hp, hkind, hwrite⟩ := h
    refine ⟨⟨hc, hp⟩, ?_, ?_, ?_⟩
    · simpa using hfree
    · cases hk : m.kindAt? p with
      | none => simp [hk] at hkind
      | some k => cases k <;> simp [hk] at hkind ⊢
    · simpa using hwrite
  · rintro ⟨⟨hc, hp⟩, hfree, hkind, hwrite⟩
    simp [obstacles, vacant, hc, hp, hfree, hkind, hwrite]

/-- The first obstacle is what keeps an object from being made. -/
theorem head?_obstacles (hparent : c.parent? = some p) :
    (m.obstacles p c).head? = match m.admits c with
      | .ok () => none
      | .error f => (Gateway.restate f).code? := by
  have vacant : m.nodes.contains c = (m.nodes.get? c).isSome := rfl
  simp only [obstacles, admits, checkFailure, node?, permissionsAt, hparent, kindAt?, vacant]
  cases m.failures.get? c with
  | some reason => rfl
  | none =>
    cases m.nodes.get? c with
    | some there => rfl
    | none =>
      cases m.failures.get? p with
      | some reason => rfl
      | none =>
        cases m.nodes.get? p with
        | none => rfl
        | some node =>
          obtain ⟨k, size, name, zone, created, modified, children⟩ := node
          cases k with
          | file => rfl
          | directory =>
            cases hwrite : ((m.overrides.get? p).getD {}).write with
            | false =>
              simp [bind, Except.bind, pure, Except.pure, hwrite]
              rfl
            | true => simp [bind, Except.bind, pure, Except.pure, hwrite]

theorem admits_eq_ok_iff (hparent : c.parent? = some p) :
    m.admits c = .ok () ↔ m.Unopposed p c := by
  have first := m.head?_obstacles hparent
  rw [← obstacles_eq_nil_iff, ← List.head?_eq_none_iff, first]
  cases hadmits : m.admits c with
  | ok _ => simp
  | error f => simpa using Gateway.code?_restate_ne_none f

theorem code?_of_admits (hparent : c.parent? = some p) {f : Failure} (h : m.admits c = .error f) :
    (Gateway.restate f).code? = (m.obstacles p c).head? := by
  rw [head?_obstacles hparent, h]

/-- What a session made stands, as what it was made. -/
theorem kindAt?_of_create {s : Session}
    (h : ((backend.create s p.toText kind).answer m).1 = .ok ()) :
    ((backend.create s p.toText kind).answer m).2.kindAt? p = some kind := by
  rw [show backend.create s p.toText kind = within s _ from rfl, within, Call.answer_of] at h ⊢
  cases hopen : m.sessions.ensureOpen s none with
  | error e => simp [hopen] at h
  | ok _ =>
    simp only [hopen, Path.ofText_toText, createNode] at h ⊢
    cases hadmits : m.admits p with
    | error f => simp [hadmits] at h
    | ok _ => exact (kindAt?_insert m p kind 0 m.owner p).trans (if_pos rfl)

/-- Later on there is one more object, an empty one of this kind at `c`, and the directory at `p`
tells of it.  Nothing else is different but the sessions. -/
structure Gains (m : Memory) (p c : Path) (kind : Kind) (later : Memory) : Prop where
  object : later.nodes.get? c =
    some ⟨kind, 0, m.owner.name, m.owner.zone, m.now, m.now, []⟩
  directory : ∃ node, m.nodes.get? p = some node ∧
    later.nodes.get? p = some { node with children := node.children ++ [c], modifiedAt := m.now }
  others : ∀ q, q ≠ c → q ≠ p → later.nodes.get? q = m.nodes.get? q
  /-- Permissions, wanted failures and all the rest are as they were. -/
  rest : later = { m with nodes := later.nodes, sessions := later.sessions }

theorem Gains.still (h : m.Gains p c kind n) (still : Still n later) : m.Gains p c kind later := by
  obtain ⟨object, directory, others, rest⟩ := h
  rw [Still] at still
  rw [still]
  refine ⟨object, directory, others, ?_⟩
  rw [rest]

/-- What the tree gains when an object is made where nothing speaks against it. -/
theorem Reachable.gains (hm : m.Reachable) (h : m.Unopposed p c) (hparent : c.parent? = some p)
    (kind : Kind) : m.Gains p c kind (m.withObject c kind) := by
  obtain ⟨node, hnode, -⟩ := Option.map_eq_some_iff.mp h.directory
  -- A path without a node is nobody's child yet, so that it is linked now.
  have unlinked : c ∉ node.children := by
    intro hc
    have told : c ∈ m.childrenAt p := by rwa [childrenAt, hnode]
    exact ((hm.children p).2 c told).2 (by rw [kindAt?, h.vacant]; rfl)
  refine ⟨get?_withObject m c kind, ⟨node, hnode, ?_⟩, fun q hc hp => ?_, ?_⟩
  · rw [withObject, get?_nodes_insert, if_neg (Path.ne_of_parent?_eq hparent), if_pos hparent,
      hnode]
    simp [link, unlinked]
  · rw [withObject, get?_nodes_insert, if_neg hc, if_neg]
    rw [hparent]
    exact fun heq => hp (Option.some.inj heq).symm
  · unfold withObject Memory.insert
    cases c.parent? <;> rfl

/-- What can be done with a tree at once: any call, within a session or past them, the end of all
wanted failures, a wish that releases fail, and a move of the clock. -/
inductive Turns (m : Memory) : Memory → Prop
  | same : Turns m m
  | called {α : Type} {c : Call Memory α} (hc : Offers c) : Turns m (c.answer m).2
  | cleared : Turns m m.clearFailures
  | releasesFail (fails : Bool) : Turns m { m with failsReleases := fails }
  | ticked (now : Instant) : Turns m { m with now := now }

theorem Turns.reachable (h : m.Turns n) (hm : m.Reachable) : n.Reachable := by
  cases h with
  | same => exact hm
  | called hc => exact hm.called hc
  | cleared => exact hm.cleared
  | releasesFail fails => exact hm.releasesFail fails
  | ticked now => exact hm.ticked now

/-- Whatever is done, no object is gone afterwards. -/
theorem Turns.kindAt?_ne_none (h : m.Turns n) (hq : m.kindAt? q ≠ none) : n.kindAt? q ≠ none := by
  cases h with
  | called hc =>
    rcases nodes_cases hc m with hnodes | ⟨p, kind, -, heq⟩ | ⟨p, kind, size, owner, heq⟩
    · rwa [kindAt?_congr (m := m) (by rw [hnodes])]
    · rw [heq]
      exact kindAt?_insert_ne_none kind 0 m.owner hq
    · obtain ⟨k, hk⟩ := Option.ne_none_iff_exists'.mp hq
      rw [heq, kindAt?_seedPath m p kind size owner hk]
      exact Option.some_ne_none _
  | _ => exact hq

end InodeGateway.Memory
