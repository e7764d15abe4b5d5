import InodeGateway.Backend.Memory

/-!
# The states of a backend in memory

A backend in memory begins with some directories.  After that sessions work on it, and objects,
permissions and failures are placed past the sessions.  Its objects change in one way only: a node
is written and linked into its parent.

## Main definitions

* `Memory.Offers` — the calls of sessions and those made past them
* `Memory.Reachable` — the states that calls lead to

## Main statements

* `Memory.nodes_cases` — what a call can do to the objects
* `Memory.Reachable.nodes_induction` — what every written node keeps, every state has
-/

namespace InodeGateway.Memory

variable {m : Memory} {α : Type}

/-- The calls that a backend in memory answers: those of sessions, and those made past them. -/
inductive Offers : {α : Type} → Call Memory α → Prop
  | openSession : Offers openSession
  | stat (s : Session) (text : String) : Offers (backend.stat s text)
  | permits (s : Session) (right : Right) (text : String) : Offers (backend.permits s right text)
  | create (s : Session) (text : String) (kind : Kind) : Offers (backend.create s text kind)
  | list (s : Session) (text : String) : Offers (backend.list s text)
  | capacity (s : Session) : Offers (spaceOf s)
  | release (s : Session) : Offers (release s)
  | seed (text : String) (kind : Kind) (size : Num) (owner : Option Owner) :
      Offers (seed text kind size owner)
  | setPermissions (text : String) (change : Permissions.Change) :
      Offers (setPermissions text change)
  | failOn (text : String) (reason : Reason) : Offers (failOn text reason)

/-- The states that calls lead to, beginning with some directories. -/
inductive Reachable : Memory → Prop
  | created {owner : Owner} {capacityBytes : Num} {now : Instant} {texts : List String} {m : Memory}
      (h : (empty owner capacityBytes now).addDirectories texts = .ok m) : Reachable m
  | called {m : Memory} (hm : Reachable m) {α : Type} {c : Call Memory α} (hc : Offers c) :
      Reachable (c.answer m).2
  | cleared {m : Memory} (hm : Reachable m) : Reachable m.clearFailures
  | releasesFail {m : Memory} (hm : Reachable m) (fails : Bool) :
      Reachable { m with failsReleases := fails }
  | ticked {m : Memory} (hm : Reachable m) (now : Instant) : Reachable { m with now := now }

/-- A call of a session changes nothing if the session was released, and otherwise does what was
asked. -/
theorem within_cases (s : Session) (f : Memory → Except Failure α × Memory) (m : Memory) :
    ((within s f).answer m).2 = m ∨ (within s f).answer m = f m := by
  rw [within, Call.answer_of]
  cases m.sessions.ensureOpen s none with
  | error e => exact .inl rfl
  | ok _ => exact .inr rfl

/-- A look by a session changes nothing. -/
theorem state_withinAt (s : Session) (text : String) (f : Memory → Path → Except Failure α)
    (m : Memory) : ((withinAt s text f).answer m).2 = m := by
  rcases within_cases s _ m with h | h
  · exact h
  · rw [withinAt, h]
    cases Path.ofText text <;> rfl

/-- What a call can do to the objects: nothing, writing an empty node at a path that is free, or
placing a node and the directories above it. -/
theorem nodes_cases {c : Call Memory α} (hc : Offers c) (m : Memory) :
    (c.answer m).2.nodes = m.nodes ∨
      (∃ p kind, m.admits p = .ok () ∧ (c.answer m).2 = m.insert p kind 0 m.owner) ∨
      ∃ p kind size owner, (c.answer m).2 = m.seedPath p kind size owner := by
  cases hc with
  -- All calls but two leave the objects alone, some of them as looks, some changing other parts.
  | openSession => exact .inl rfl
  | stat s text => exact .inl (congrArg nodes (state_withinAt s text _ m))
  | permits s right text => exact .inl (congrArg nodes (state_withinAt s text _ m))
  | create s text kind =>
    rcases within_cases s _ m with h | h
    · exact .inl (congrArg nodes h)
    · rw [show backend.create s text kind = within s _ from rfl, h]
      cases Path.ofText text with
      | error r => exact .inl rfl
      | ok p =>
        simp only [createNode]
        cases hp : m.admits p with
        | error e => exact .inl rfl
        | ok _ => exact .inr (.inl ⟨p, kind, hp, rfl⟩)
  | list s text =>
    refine .inl (congrArg nodes ?_)
    rcases within_cases s (fun m => (m.children text, m)) m with h | h
    · exact h
    · rw [show backend.list s text = within s _ from rfl, h]
  | capacity s =>
    refine .inl (congrArg nodes ?_)
    rcases within_cases s (fun m => (.ok m.space, m)) m with h | h
    · exact h
    · rw [spaceOf, h]
  | release s =>
    refine .inl ?_
    rw [release, Call.answer_of]
    split
    · rfl
    · split <;> rfl
  | seed text kind size owner =>
    rw [seed, Call.answer_of]
    cases Path.ofText text with
    | error r => exact .inl rfl
    | ok p => exact .inr (.inr ⟨p, kind, size, owner, rfl⟩)
  | setPermissions text change =>
    rw [setPermissions, Call.answer_of]
    cases Path.ofText text with
    | error r => exact .inl rfl
    | ok p =>
      simp only
      cases m.permissionsAt p with
      | error f => exact .inl rfl
      | ok permissions => exact .inl rfl
  | failOn text reason =>
    rw [failOn, Call.answer_of]
    cases Path.ofText text <;> exact .inl rfl

section Written

variable {P : OrderedMap Path Node → Prop}
  (hinsert : ∀ (m : Memory) p kind size owner, P m.nodes → P (m.insert p kind size owner).nodes)
include hinsert

theorem makeDirectories_nodes (p : Path) (hm : P m.nodes) : P (m.makeDirectories p).nodes := by
  fun_induction m.makeDirectories p with
  | case1 => exact hm
  | case2 => exact hinsert _ _ _ _ _ hm
  | case3 p _ q _ ih => exact hinsert _ _ _ _ _ ih

theorem addDirectories_nodes {texts : List String} {m' : Memory} (hm : P m.nodes)
    (h : m.addDirectories texts = .ok m') : P m'.nodes := by
  induction texts generalizing m with
  | nil =>
    cases h
    exact hm
  | cons text rest ih =>
    rw [addDirectories] at h
    split at h
    · next p _ => exact ih (makeDirectories_nodes hinsert p hm) h
    · cases h

theorem seedPath_nodes (p : Path) (kind : Kind) (size : Num) (owner : Option Owner)
    (hm : P m.nodes) : P (m.seedPath p kind size owner).nodes := by
  unfold seedPath
  cases p.parent? with
  | none => exact hinsert _ _ _ _ _ hm
  | some q => exact hinsert _ _ _ _ _ (makeDirectories_nodes hinsert q hm)

/-- What holds without objects and is kept when a node is written holds of every state. -/
theorem Reachable.nodes_induction (hempty : P {}) (h : Reachable m) : P m.nodes := by
  induction h with
  | created h => exact addDirectories_nodes hinsert (hinsert _ _ _ _ _ hempty) h
  | @called m _ _ c hc ih =>
    rcases nodes_cases hc m with hnodes | ⟨p, kind, -, heq⟩ | ⟨p, kind, size, owner, heq⟩
    · rwa [hnodes]
    · rw [heq]
      exact hinsert _ _ _ _ _ ih
    · rw [heq]
      exact seedPath_nodes hinsert p kind size owner ih
  | cleared _ ih => exact ih
  | releasesFail _ _ ih => exact ih
  | ticked _ _ ih => exact ih

end Written

end InodeGateway.Memory
