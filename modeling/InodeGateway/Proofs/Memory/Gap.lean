import InodeGateway.Proofs.Memory.Tree

/-!
# The gap above a path

Where a directory is made, those above it that are missing are made first.  The search for the
nearest node goes up one step at a time and ends at the root at the latest; on the way back each
directory is linked into the one above it, which may be as new as it is.

## Main definitions

* `Memory.Rooted` — what stands has something above it, up to the root
* `Memory.Climb` — the calls that are made one within the other
* `Memory.Missing` — a path and those above it that have no node
* `Memory.Fills` — what is different after the gap is filled

## Main statements

* `Memory.Reachable.rooted` — so it is in every state
* `Memory.climb_makeDirectories`, `Memory.Climb.eq_makeDirectories` — no more calls are made than
  the path is deep
* `Memory.Rooted.exists_top` — what is missing lies within the topmost path that is missing
* `Memory.Reachable.fills` — exactly the gap is filled
-/

namespace InodeGateway.Memory

variable {m m' : Memory} {p q r s : Path}

section Rooted

theorem kindAt?_insert_self_ne_none (m : Memory) (p : Path) (kind : Kind) (size : Num)
    (owner : Owner) : (m.insert p kind size owner).kindAt? p ≠ none := by
  rw [kindAt?_insert, if_pos rfl]
  exact Option.some_ne_none kind

/-- The root has a node, and so has whatever stands above a node. -/
structure Rooted (m : Memory) : Prop where
  root : m.kindAt? .root ≠ none
  above : ∀ {q p}, q.parent? = some p → m.kindAt? q ≠ none → m.kindAt? p ≠ none

theorem Rooted.congr (hm : m.Rooted) (h : m'.nodes = m.nodes) : m'.Rooted := by
  have kinds : ∀ p, m'.kindAt? p = m.kindAt? p := fun p => kindAt?_congr (by rw [h])
  constructor
  · rw [kinds]
    exact hm.root
  · intro q p hq
    rw [kinds, kinds]
    exact hm.above hq

/-- Everything above a node has one. -/
theorem Rooted.contains (hm : m.Rooted) (h : q.contains p) (hp : m.kindAt? p ≠ none) :
    m.kindAt? q ≠ none := by
  induction p using Path.child_induction with
  | root => rwa [Path.contains_antisymm h (Path.contains_iff.mpr List.nil_prefix)]
  | child p n ih =>
    rcases Path.contains_child_iff.mp h with rfl | h
    · exact hp
    · exact ih h (hm.above (Path.parent?_child p n) hp)

theorem Rooted.insert (hm : m.Rooted) (hparent : ∀ {q}, p.parent? = some q → m.kindAt? q ≠ none)
    (kind : Kind) (size : Num) (owner : Owner) : (m.insert p kind size owner).Rooted := by
  refine ⟨kindAt?_insert_ne_none kind size owner hm.root, fun {q r} hq hkind => ?_⟩
  refine kindAt?_insert_ne_none kind size owner ?_
  rw [kindAt?_insert] at hkind
  split at hkind
  · next heq => exact hparent (heq ▸ hq)
  · exact hm.above hq hkind

theorem Rooted.makeDirectories (hm : m.Rooted) (p : Path) :
    (m.makeDirectories p).Rooted ∧ (m.makeDirectories p).kindAt? p ≠ none := by
  fun_induction m.makeDirectories p with
  | case1 p hp => exact ⟨hm, fun h => kindAt?_eq_none_iff.mp h hp⟩
  | case2 p _ hparent =>
    refine ⟨hm.insert (fun hq => ?_) _ _ _, kindAt?_insert_self_ne_none _ _ _ _ _⟩
    rw [hparent] at hq
    cases hq
  | case3 p _ q hparent ih =>
    refine ⟨ih.1.insert (fun hq => ?_) _ _ _, kindAt?_insert_self_ne_none _ _ _ _ _⟩
    rw [hparent] at hq
    cases hq
    exact ih.2

theorem Rooted.seedPath (hm : m.Rooted) (p : Path) (kind : Kind) (size : Num)
    (owner : Option Owner) : (m.seedPath p kind size owner).Rooted := by
  obtain ⟨base, size', owner', heq, hbase⟩ := m.seedPath_eq_insert p kind size owner
  rw [heq]
  cases hparent : p.parent? with
  | none =>
    rw [hparent] at hbase
    subst hbase
    refine hm.insert (fun hq => ?_) _ _ _
    rw [hparent] at hq
    cases hq
  | some q =>
    rw [hparent] at hbase
    subst hbase
    refine (hm.makeDirectories q).1.insert (fun hq => ?_) _ _ _
    rw [hparent] at hq
    cases hq
    exact (hm.makeDirectories q).2

theorem rooted_empty (owner : Owner) (capacityBytes : Num) (now : Instant) :
    (empty owner capacityBytes now).Rooted := by
  constructor
  · exact kindAt?_insert_self_ne_none _ _ _ _ _
  · intro q p hq hkind
    rw [empty, kindAt?_insert] at hkind
    split at hkind
    · next heq =>
      rw [heq] at hq
      cases hq
    · exact absurd rfl hkind

theorem Rooted.addDirectories {texts : List String} (hm : m.Rooted)
    (h : m.addDirectories texts = .ok m') : m'.Rooted := by
  induction texts generalizing m with
  | nil =>
    cases h
    exact hm
  | cons text rest ih =>
    rw [Memory.addDirectories] at h
    split at h
    · next p _ => exact ih (hm.makeDirectories p).1 h
    · cases h

/-- In every state the root has a node, and so has whatever stands above a node. -/
theorem Reachable.rooted (hm : Reachable m) : m.Rooted := by
  induction hm with
  | created h => exact (rooted_empty _ _ _).addDirectories h
  | @called m _ _ c hc ih =>
    rcases nodes_cases hc m with hnodes | ⟨p, kind, admitted, heq⟩ | ⟨p, kind, size, owner, heq⟩
    · exact ih.congr hnodes
    · obtain ⟨-, q, hparent, hq⟩ := admits_ok admitted
      rw [heq]
      refine ih.insert (fun hr => ?_) _ _ _
      rw [hparent] at hr
      cases hr
      rw [hq]
      exact Option.some_ne_none _
    · rw [heq]
      exact ih.seedPath p kind size owner
  | cleared _ ih => exact ih.congr rfl
  | releasesFail _ _ ih => exact ih.congr rfl
  | ticked _ _ ih => exact ih.congr rfl

end Rooted

section Climb

/-- The calls that making the directory at a path comes to, each made within the one before it. -/
inductive Climb (m : Memory) : Path → List Path → Memory → Prop
  | there {p : Path} (h : m.kindAt? p ≠ none) : Climb m p [p] m
  | root {p : Path} (h : m.kindAt? p = none) (hparent : p.parent? = none) :
      Climb m p [p] (m.insert p .directory 0 m.owner)
  | up {p q : Path} {calls : List Path} {m' : Memory} (h : m.kindAt? p = none)
      (hparent : p.parent? = some q) (rest : Climb m q calls m') :
      Climb m p (p :: calls) (m'.insert p .directory 0 m.owner)

/-- The calls come to an end: there are no more of them than paths from this one up to the root. -/
theorem climb_makeDirectories (m : Memory) (p : Path) :
    ∃ calls, Climb m p calls (m.makeDirectories p) ∧ calls.length ≤ p.depth + 1 := by
  fun_induction m.makeDirectories p with
  | case1 p hp => exact ⟨[p], .there fun h => kindAt?_eq_none_iff.mp h hp, by simp⟩
  | case2 p hp hparent => exact ⟨[p], .root (kindAt?_eq_none_iff.mpr hp) hparent, by simp⟩
  | case3 p hp q hparent ih =>
    obtain ⟨calls, climb, few⟩ := ih
    have deeper := Path.depth_of_parent? hparent
    refine ⟨p :: calls, .up (kindAt?_eq_none_iff.mpr hp) hparent climb, ?_⟩
    rw [List.length_cons]
    omega

theorem makeDirectories_of_some (h : m.kindAt? p ≠ none) : m.makeDirectories p = m := by
  have hp : m.nodes.contains p := by
    by_contra hp
    exact h (kindAt?_eq_none_iff.mpr hp)
  rw [Memory.makeDirectories, if_pos hp]

/-- The calls can come to nothing else. -/
theorem Climb.eq_makeDirectories {calls : List Path} (h : Climb m p calls m') :
    m' = m.makeDirectories p := by
  induction h with
  | there h => exact (makeDirectories_of_some h).symm
  | root h hparent =>
    rw [Memory.makeDirectories, if_neg (kindAt?_eq_none_iff.mp h)]
    split
    · rfl
    · next hq =>
      rw [hparent] at hq
      cases hq
  | up h hparent _ ih =>
    rw [Memory.makeDirectories, if_neg (kindAt?_eq_none_iff.mp h)]
    split
    · next hq =>
      rw [hparent] at hq
      cases hq
    · next r hr =>
      cases hparent.symm.trans hr
      rw [ih]

end Climb

section Gap

/-- A directory as it is made: without children, of the usual owner. -/
def newDirectory (m : Memory) : Node where
  kind := .directory
  sizeBytes := 0
  ownerName := m.owner.name
  ownerZone := m.owner.zone
  createdAt := m.now
  modifiedAt := m.now
  children := []

/-- A path on the way to `p`, or `p` itself, has no node. -/
def Missing (m : Memory) (p q : Path) : Prop := q.contains p ∧ m.kindAt? q = none

theorem insert_eq (m : Memory) (p : Path) (kind : Kind) (size : Num) (owner : Owner) :
    m.insert p kind size owner = { m with nodes := (m.insert p kind size owner).nodes } := by
  unfold Memory.insert
  cases p.parent? <;> rfl

/-- Nothing but the nodes is different. -/
theorem makeDirectories_eq (m : Memory) (p : Path) :
    m.makeDirectories p = { m with nodes := (m.makeDirectories p).nodes } := by
  fun_induction m.makeDirectories p with
  | case1 => rfl
  | case2 p => exact insert_eq ..
  | case3 p _ q _ ih =>
    let made := ((m.makeDirectories q).insert p .directory 0 m.owner).nodes
    exact (insert_eq ..).trans (congrArg (fun base : Memory => { base with nodes := made }) ih)

theorem now_makeDirectories (m : Memory) (p : Path) : (m.makeDirectories p).now = m.now := by
  rw [makeDirectories_eq]

theorem get?_eq_none_iff : m.nodes.get? p = none ↔ m.kindAt? p = none := by simp [kindAt?]

/-- At the path itself the node that stood, or a new directory. -/
theorem get?_makeDirectories_self (m : Memory) (p : Path) :
    (m.makeDirectories p).nodes.get? p = some ((m.nodes.get? p).getD m.newDirectory) := by
  obtain hp | ⟨node, hp⟩ := (m.nodes.get? p).eq_none_or_eq_some
  · rw [hp, Option.getD_none, Memory.makeDirectories,
      if_neg (kindAt?_eq_none_iff.mp (get?_eq_none_iff.mp hp))]
    split
    · rw [get?_nodes_insert, if_pos rfl]
      rfl
    · rw [get?_nodes_insert, if_pos rfl, now_makeDirectories]
      rfl
  · have stands : m.kindAt? p ≠ none := fun h => by simp [kindAt?, hp] at h
    rw [makeDirectories_of_some stands, hp]
    rfl

/-- What is further above than the parent is left alone when a node is written. -/
theorem get?_nodes_insert_of_above {kind : Kind} {size : Num} {owner : Owner}
    (hs : s.parent? = some r) (within : s.contains q) (hparent : p.parent? = some q) :
    (m.insert p kind size owner).nodes.get? r = m.nodes.get? r := by
  have hrq : r ≠ q := by
    rintro rfl
    exact Path.not_contains_of_parent?_eq hs within
  have hrp : r ≠ p := by
    rintro rfl
    exact Path.not_contains_of_parent?_eq hs
      (Path.contains_trans within (Path.contains_of_parent?_eq hparent))
  rw [get?_nodes_insert, if_neg hrp, hparent, if_neg fun h => hrq (Option.some.inj h).symm]

/-- A node on the way to the path is linked to the next one on the way if that is missing. -/
theorem Rooted.get?_makeDirectories_of_missing (hm : m.Rooted) (hs : s.parent? = some r)
    (missing : m.Missing p s) : (m.makeDirectories p).nodes.get? r =
      some (link m.now s ((m.nodes.get? r).getD m.newDirectory)) := by
  obtain ⟨within, none⟩ := missing
  fun_induction m.makeDirectories p with
  | case1 p hp => exact absurd none (hm.contains within fun h => kindAt?_eq_none_iff.mp h hp)
  | case2 p _ hparent => exact absurd hparent (Path.parent?_ne_none_of_contains hs within)
  | case3 p _ q hparent ih =>
    by_cases hsp : s = p
    · -- The last link: the node above is the one that the rest of the gap ends at.
      subst hsp
      cases hs.symm.trans hparent
      rw [get?_nodes_insert, if_neg (Path.ne_of_parent?_eq hs), if_pos hs,
        get?_makeDirectories_self, now_makeDirectories]
      rfl
    · have within' : s.contains q := Path.contains_of_parent? within (Ne.symm hsp) hparent
      rw [get?_nodes_insert_of_above hs within' hparent, ih within']

/-- A node on the way to the path is left alone if the next one on the way has a node. -/
theorem get?_makeDirectories_of_some (hs : s.parent? = some r) (within : s.contains p)
    (stands : m.kindAt? s ≠ none) : (m.makeDirectories p).nodes.get? r = m.nodes.get? r := by
  fun_induction m.makeDirectories p with
  | case1 => rfl
  | case2 p _ hparent => exact absurd hparent (Path.parent?_ne_none_of_contains hs within)
  | case3 p hp q hparent ih =>
    have hsp : s ≠ p := by
      rintro rfl
      exact stands (kindAt?_eq_none_iff.mpr hp)
    have within' : s.contains q := Path.contains_of_parent? within hsp.symm hparent
    rw [get?_nodes_insert_of_above hs within' hparent, ih within']

/-- If a path has no node, then of those that are missing on the way to it one has a node above it,
and only one. -/
theorem Rooted.exists_top (hm : m.Rooted) (hp : m.kindAt? p = none) :
    ∃ top above, m.Missing p top ∧ top.parent? = some above ∧ m.kindAt? above ≠ none ∧
      ∀ {q r}, m.Missing p q → q ≠ top → q.parent? = some r → m.Missing p r := by
  induction p using Path.child_induction with
  | root => exact absurd hp hm.root
  | child p n ih =>
    by_cases stands : m.kindAt? p = none
    · obtain ⟨top, above, missing, hparent, habove, only⟩ := ih stands
      have lower : ∀ {q}, m.Missing p q → m.Missing (p.child n) q :=
        fun h => ⟨Path.contains_child h.1 n, h.2⟩
      refine ⟨top, above, lower missing, hparent, habove, fun {q r} hq hne hr => ?_⟩
      rcases Path.contains_child_iff.mp hq.1 with rfl | hin
      · cases (Path.parent?_child p n).symm.trans hr
        exact lower ⟨Path.contains_self p, stands⟩
      · exact lower (only ⟨hin, hq.2⟩ hne hr)
    · refine ⟨p.child n, p, ⟨Path.contains_self _, hp⟩, Path.parent?_child p n, stands,
        fun {q r} hq hne _ => ?_⟩
      have hin := (Path.contains_child_iff.mp hq.1).resolve_left hne
      exact absurd hq.2 (hm.contains hin stands)

/-- The gap above `p` is filled: it reached up to `top`, which the node above it gains as its last
child.  Each new directory below `top` is the only child of the one above it, which is new too, and
`p` has no children.  Nothing else is different. -/
structure Fills (m : Memory) (p top above : Path) (m' : Memory) : Prop where
  top_missing : m.Missing p top
  parent : top.parent? = some above
  gains : ∃ node, m.nodes.get? above = some node ∧ top ∉ node.children ∧
    m'.nodes.get? above =
      some { node with children := node.children ++ [top], modifiedAt := m.now }
  last : m'.nodes.get? p = some m.newDirectory
  links : ∀ q, m.Missing p q → q ≠ top → ∃ r, q.parent? = some r ∧ m.Missing p r ∧
    m'.nodes.get? r = some { m.newDirectory with children := [q] }
  frame : ∀ q, ¬ m.Missing p q → q ≠ above → m'.nodes.get? q = m.nodes.get? q
  aside : m' = { m with nodes := m'.nodes }

theorem Reachable.fills_gap (hm : Reachable m) (hp : m.kindAt? p = none) :
    ∃ top above, m.Fills p top above (m.makeDirectories p) := by
  have rooted := hm.rooted
  obtain ⟨top, above, missing, hparent, habove, only⟩ := rooted.exists_top hp
  refine ⟨top, above, missing, hparent, ?_, ?_, fun q hq hne => ?_, fun q hq hne => ?_,
    makeDirectories_eq m p⟩
  · obtain ⟨node, hnode⟩ := Option.ne_none_iff_exists'.mp fun h => habove (get?_eq_none_iff.mp h)
    have fresh : top ∉ node.children := by
      intro hmem
      have told : top ∈ m.childrenAt above := by simpa [childrenAt, hnode] using hmem
      exact ((hm.children above).2 top told).2 missing.2
    refine ⟨node, hnode, fresh, ?_⟩
    rw [rooted.get?_makeDirectories_of_missing hparent missing, hnode, Option.getD_some, link,
      if_neg fresh]
  · rw [get?_makeDirectories_self, get?_eq_none_iff.mpr hp, Option.getD_none]
  · have hroot : q ≠ .root := fun h => rooted.root (h ▸ hq.2)
    obtain ⟨r, n, rfl⟩ := Path.exists_child_of_ne_root hroot
    have hr := Path.parent?_child r n
    have missing' := only hq hne hr
    refine ⟨r, hr, missing', ?_⟩
    rw [rooted.get?_makeDirectories_of_missing hr hq, get?_eq_none_iff.mpr missing'.2,
      Option.getD_none]
    rfl
  · by_cases hin : q.contains p
    · have stands : m.kindAt? q ≠ none := fun h => hq ⟨hin, h⟩
      have hqp : q ≠ p := by
        rintro rfl
        exact stands hp
      obtain ⟨s, hs, within⟩ := Path.exists_towards hin hqp
      refine get?_makeDirectories_of_some hs within fun none => hne ?_
      -- The one missing path with a node above it is the topmost one.
      have topmost : s = top := by
        by_contra hst
        exact stands (only ⟨within, none⟩ hst hs).2
      rw [topmost, hparent] at hs
      exact (Option.some.inj hs).symm
    · exact get?_nodes_makeDirectories m p hin

/-- What is missing gets a directory of size zero. -/
theorem Fills.made {top above : Path} (h : m.Fills p top above m') (hm : m.Rooted)
    (hq : m.Missing p q) :
    ∃ node, m'.nodes.get? q = some node ∧ node.kind = .directory ∧ node.sizeBytes = 0 := by
  by_cases hqp : q = p
  · exact ⟨_, hqp ▸ h.last, rfl, rfl⟩
  · -- The next one on the way to the path is missing too, and hangs below.
    obtain ⟨s, hs, within⟩ := Path.exists_towards hq.1 hqp
    have missing : m.Missing p s := ⟨within, by_contra fun stands => hm.above hs stands hq.2⟩
    have hst : s ≠ top := by
      rintro rfl
      obtain ⟨node, hnode, -⟩ := h.gains
      cases hs.symm.trans h.parent
      rw [get?_eq_none_iff.mpr hq.2] at hnode
      cases hnode
    obtain ⟨r, hr, -, linked⟩ := h.links s missing hst
    cases hs.symm.trans hr
    exact ⟨_, linked, rfl, rfl⟩

/-- Exactly the gap is filled when the directory at a path is made.  The calls come to an end, and
to nothing else.  Afterwards the path and everything above it has a node; the new nodes are those
that were missing, directories of size zero, each linked into the one above it; and if the path had
a node then nothing is different. -/
theorem makeDirectories_fills (hm : Reachable m) (p : Path) :
    ((∃ calls, Climb m p calls (m.makeDirectories p) ∧ calls.length ≤ p.depth + 1) ∧
      ∀ calls m', Climb m p calls m' → m' = m.makeDirectories p) ∧
    (∀ q, q.contains p → (m.makeDirectories p).kindAt? q ≠ none) ∧
    (∀ q, (m.kindAt? q = none ∧ (m.makeDirectories p).kindAt? q ≠ none) ↔ m.Missing p q) ∧
    (∀ q, m.Missing p q → ∃ node, (m.makeDirectories p).nodes.get? q = some node ∧
      node.kind = .directory ∧ node.sizeBytes = 0) ∧
    (m.kindAt? p = none → ∃ top above, m.Fills p top above (m.makeDirectories p)) ∧
    (m.kindAt? p ≠ none → m.makeDirectories p = m) := by
  have rooted := hm.rooted
  have stands : ∀ q, q.contains p → (m.makeDirectories p).kindAt? q ≠ none :=
    fun q hin => (rooted.makeDirectories p).1.contains hin (rooted.makeDirectories p).2
  have new : ∀ q, m.kindAt? q = none ∧ (m.makeDirectories p).kindAt? q ≠ none ↔ m.Missing p q := by
    refine fun q => ⟨fun ⟨free, made⟩ => ⟨?_, free⟩, fun hq => ⟨hq.2, stands q hq.1⟩⟩
    by_contra outside
    exact made ((kindAt?_congr (get?_nodes_makeDirectories m p outside)).trans free)
  refine ⟨⟨climb_makeDirectories m p, fun calls m' => Climb.eq_makeDirectories⟩, stands, new,
    fun q hq => ?_, hm.fills_gap, makeDirectories_of_some⟩
  have hp : m.kindAt? p = none := by_contra fun h => rooted.contains hq.1 h hq.2
  obtain ⟨top, above, filled⟩ := hm.fills_gap hp
  exact filled.made rooted hq

/-- A path in the small tree with two directories missing on the way to it. -/
def deepPath : Path := (directoryPath.child ⟨"c", by decide⟩).child ⟨"d", by decide⟩

theorem smallTree_gap :
    Reachable smallTree ∧ smallTree.kindAt? deepPath = none ∧
      ∃ top above, smallTree.Fills deepPath top above (smallTree.makeDirectories deepPath) := by
  have reachable : Reachable smallTree :=
    .called (@Reachable.created _ _ _ [] _ rfl) (.seed "/a/b" .file 0 none)
  have free : smallTree.kindAt? deepPath = none := by decide +kernel
  exact ⟨reachable, free, (makeDirectories_fills reachable deepPath).2.2.2.2.1 free⟩

end Gap

end InodeGateway.Memory
