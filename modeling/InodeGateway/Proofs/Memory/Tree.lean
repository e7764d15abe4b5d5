import InodeGateway.Proofs.Memory.Looks
import InodeGateway.Proofs.Path.Order
import Mathlib.Data.List.Nodup

/-!
# The tree in memory

The tree is kept twice: as a node at each path, and as the children that each node tells of.  The
two agree as long as nothing is placed that a tree has no room for.  Sessions look before they make
an object; whoever places one past them is trusted to.

## Main definitions

* `Memory.IsTree` — nodes and children agree, and only directories have children
* `Memory.HasRoom` — an object can be placed at a path without tearing the tree
* `Memory.Tended` — the states to which directories, creations and placings with room lead

## Main statements

* `Memory.IsTree.seedPath_iff` — a placing keeps the tree exactly if there is room for it
* `Memory.Tended.agree` — in every tended state nodes and children agree, and looks and listings of
  sessions with them
-/

namespace InodeGateway

namespace Memory

variable {m m' : Memory} {p q r : Path} {kind : Kind} {size : Num} {owner : Owner}

/-- A node that is written stands at its path; its parent's node is linked to it. -/
theorem get?_nodes_insert (m : Memory) (p : Path) (kind : Kind) (size : Num) (owner : Owner)
    (r : Path) : (m.insert p kind size owner).nodes.get? r =
      if r = p then some ⟨kind, size, owner.name, owner.zone, m.now, m.now, []⟩
      else if p.parent? = some r then (m.nodes.get? r).map (link m.now p) else m.nodes.get? r := by
  unfold Memory.insert
  cases hparent : p.parent? with
  | none => simp [OrderedMap.get?_insert, eq_comm]
  | some q =>
    have hne := Path.ne_of_parent?_eq hparent
    simp only [OrderedMap.get?_modify, OrderedMap.get?_insert, Option.some.injEq]
    grind

theorem kindAt?_insert (m : Memory) (p : Path) (kind : Kind) (size : Num) (owner : Owner)
    (r : Path) : (m.insert p kind size owner).kindAt? r =
      if r = p then some kind else m.kindAt? r := by
  have linked : ∀ node : Node, (link m.now p node).kind = node.kind := by
    intro node
    unfold link
    split <;> rfl
  rw [kindAt?, get?_nodes_insert]
  split
  · rfl
  · split
    · rw [Option.map_map, kindAt?]
      exact congrArg (Option.map · _) (funext linked)
    · rfl

/-- What stands is not gone when a node is written. -/
theorem kindAt?_insert_ne_none (kind : Kind) (size : Num) (owner : Owner) (h : m.kindAt? r ≠ none) :
    (m.insert p kind size owner).kindAt? r ≠ none := by
  rw [kindAt?_insert]
  split
  · simp
  · exact h

/-- A node that is written has no children; it is added to those of its parent unless it is
there. -/
theorem childrenAt_insert (m : Memory) (p : Path) (kind : Kind) (size : Num) (owner : Owner)
    (r : Path) : (m.insert p kind size owner).childrenAt r =
      if r = p then []
      else if p.parent? = some r ∧ m.kindAt? r ≠ none ∧ p ∉ m.childrenAt r then
        m.childrenAt r ++ [p]
      else m.childrenAt r := by
  rw [childrenAt, get?_nodes_insert, childrenAt, kindAt?]
  split
  · rfl
  · by_cases hparent : p.parent? = some r
    · cases m.nodes.get? r with
      | none => simp [hparent]
      | some node => by_cases hp : p ∈ node.children <;> simp [hparent, link, hp]
    · simp [hparent]

/-- In every state a node tells of each child once, and the child stands immediately below. -/
theorem Reachable.children (hm : Reachable m) (p : Path) :
    (m.childrenAt p).Nodup ∧ ∀ q ∈ m.childrenAt p, q.parent? = some p ∧ m.kindAt? q ≠ none := by
  have told : ∀ p, (m.childrenAt p).Nodup ∧ ∀ q ∈ m.childrenAt p, m.kindAt? q ≠ none := by
    -- What is kept is said of the nodes alone, as the induction over the states wants it.
    refine hm.nodes_induction (P := fun nodes => ∀ p,
      ((nodes.get? p).elim [] Node.children).Nodup ∧
        ∀ q ∈ (nodes.get? p).elim [] Node.children, (nodes.get? q).map Node.kind ≠ none) ?_ ?_
    · intro m p kind size owner ih r
      obtain ⟨once, stands⟩ : (m.childrenAt r).Nodup ∧ ∀ q ∈ m.childrenAt r, m.kindAt? q ≠ none :=
        ih r
      show ((m.insert p kind size owner).childrenAt r).Nodup ∧
        ∀ q ∈ (m.insert p kind size owner).childrenAt r, (m.insert p kind size owner).kindAt? q ≠ none
      simp only [childrenAt_insert, kindAt?_insert]
      split
      · simp
      · split
        · next h =>
          refine ⟨List.nodup_append.mpr ⟨once, by simp, by grind⟩, ?_⟩
          grind
        · grind
    · intro p
      exact ⟨List.nodup_nil, by rintro q ⟨⟩⟩
  refine ⟨(told p).1, fun q hq => ⟨?_, (told p).2 q hq⟩⟩
  cases hnode : m.nodes.get? p with
  | none => simp [childrenAt, hnode] at hq
  | some node => exact hm.childrenBelow p node hnode q (by simpa [childrenAt, hnode] using hq)

/-- Nodes and children agree: below the root, an object stands at a path exactly if its parent tells
of it, which it does once and as a directory. -/
structure IsTree (m : Memory) : Prop where
  linked : ∀ {q p}, q.parent? = some p → (m.kindAt? q ≠ none ↔ q ∈ m.childrenAt p)
  below : ∀ {q p}, q ∈ m.childrenAt p → q.parent? = some p
  once : ∀ p, (m.childrenAt p).Nodup
  directory : ∀ {q p}, q.parent? = some p → m.kindAt? q ≠ none → m.kindAt? p = some .directory

/-- An object can be placed at a path without tearing the tree: nothing stands there that has
children, and whatever stands above is a directory. -/
structure HasRoom (m : Memory) (p : Path) : Prop where
  childless : m.childrenAt p = []
  above : ∀ {q k}, q.contains p → q ≠ p → m.kindAt? q = some k → k = .directory

namespace IsTree

theorem congr (hm : m.IsTree) (h : m'.nodes = m.nodes) : m'.IsTree := by
  have kinds : ∀ p, m'.kindAt? p = m.kindAt? p := fun p => kindAt?_congr (by rw [h])
  have children : ∀ p, m'.childrenAt p = m.childrenAt p := fun p => childrenAt_congr (by rw [h])
  constructor
  · intro q p hq
    rw [kinds, children]
    exact hm.linked hq
  · intro q p hq
    rw [children] at hq
    exact hm.below hq
  · intro p
    rw [children]
    exact hm.once p
  · intro q p hq
    rw [kinds, kinds]
    exact hm.directory hq

/-- Only directories stand above an object. -/
theorem directory_above (hm : m.IsTree) (hp : m.kindAt? p ≠ none) (hq : q.contains p)
    (hne : q ≠ p) : m.kindAt? q = some .directory := by
  -- One step up from the object, then on from there.
  induction hdepth : p.depth generalizing p with
  | zero =>
    have hroot : q.names = p.names :=
      (Path.contains_iff.mp hq).eq_of_length_le (by rw [show p.names.length = 0 from hdepth]; omega)
    exact absurd (congrArg Path.mk hroot) hne
  | succ d ih =>
    have hparent : ∃ r, p.parent? = some r := by
      unfold Path.parent?
      rw [if_neg (List.ne_nil_of_length_eq_add_one hdepth)]
      exact ⟨_, rfl⟩
    obtain ⟨r, hr⟩ := hparent
    have above := hm.directory hr hp
    by_cases hqr : q = r
    · rwa [hqr]
    · refine ih (by simp [above]) (Path.contains_of_parent? hq hne.symm hr) hqr ?_
      have := Path.depth_of_parent? hr
      omega

/-- A node without children, written below a directory, keeps the tree. -/
theorem insert (hm : m.IsTree) (hempty : m.childrenAt p = [])
    (hparent : ∀ {q}, p.parent? = some q → m.kindAt? q = some .directory) (kind : Kind) (size : Num)
    (owner : Owner) : (m.insert p kind size owner).IsTree := by
  constructor
  · intro q r hq
    rw [kindAt?_insert, childrenAt_insert]
    have old := hm.linked hq
    by_cases hqp : q = p
    · subst hqp
      have above := hparent hq
      have hne := Path.ne_of_parent?_eq hq
      grind
    · by_cases hrp : r = p
      · subst hrp
        grind
      · grind
  · intro q r hq
    rw [childrenAt_insert] at hq
    have old := @hm.below q r
    grind
  · intro r
    rw [childrenAt_insert]
    split
    · exact List.nodup_nil
    · split
      · next h => exact List.nodup_append.mpr ⟨hm.once r, by simp, by grind⟩
      · exact hm.once r
  · intro q r hq hkind
    rw [kindAt?_insert] at hkind ⊢
    by_cases hqp : q = p
    · subst hqp
      rw [if_neg (Path.ne_of_parent?_eq hq)]
      exact hparent hq
    · rw [if_neg hqp] at hkind
      have hrp : r ≠ p := by
        -- What the written node's path had below it would have stood among its children.
        rintro rfl
        have told := (hm.linked hq).mp hkind
        rw [hempty] at told
        cases told
      rw [if_neg hrp]
      exact hm.directory hq hkind

end IsTree

/-- Filling the gap above a path touches only what the path lies within. -/
theorem get?_nodes_makeDirectories (m : Memory) (p : Path) (h : ¬ r.contains p) :
    (m.makeDirectories p).nodes.get? r = m.nodes.get? r := by
  fun_induction m.makeDirectories p with
  | case1 => rfl
  | case2 p _ hparent =>
    rw [get?_nodes_insert, if_neg (fun heq : r = p => h (heq ▸ p.contains_self)), hparent]
    simp
  | case3 p _ q hparent ih =>
    have below : q.contains p := Path.contains_of_parent?_eq hparent
    rw [get?_nodes_insert, if_neg (fun heq : r = p => h (heq ▸ p.contains_self)), hparent, if_neg,
      ih fun hr => h (Path.contains_trans hr below)]
    rintro heq
    exact h (Option.some.inj heq ▸ below)

/-- What stands already keeps its kind. -/
theorem kindAt?_makeDirectories {k : Kind} (h : m.kindAt? r = some k) :
    (m.makeDirectories p).kindAt? r = some k := by
  fun_induction m.makeDirectories p with
  | case1 => exact h
  | case2 p hp _ =>
    rw [kindAt?_insert, if_neg, h]
    rintro rfl
    rw [kindAt?_eq_none_iff.mpr hp] at h
    cases h
  | case3 p hp q _ ih =>
    rw [kindAt?_insert, if_neg, ih]
    rintro rfl
    rw [kindAt?_eq_none_iff.mpr hp] at h
    cases h

/-- Directories only are made. -/
theorem kindAt?_of_makeDirectories {k : Kind} (h : (m.makeDirectories p).kindAt? r = some k) :
    k = .directory ∨ m.kindAt? r = some k := by
  fun_induction m.makeDirectories p with
  | case1 => exact .inr h
  | case2 p _ _ =>
    rw [kindAt?_insert] at h
    grind
  | case3 p _ q _ ih =>
    rw [kindAt?_insert] at h
    grind

/-- Below directories, filling the gap above a path keeps the tree, and a directory stands there. -/
theorem IsTree.makeDirectories (hm : m.IsTree)
    (habove : ∀ {q k}, q.contains p → m.kindAt? q = some k → k = .directory) :
    (m.makeDirectories p).IsTree ∧ (m.makeDirectories p).kindAt? p = some .directory := by
  fun_induction m.makeDirectories p with
  | case1 p hp =>
    refine ⟨hm, ?_⟩
    cases hk : m.kindAt? p with
    | none => exact absurd hp (kindAt?_eq_none_iff.mp hk)
    | some k => rw [habove p.contains_self hk]
  | case2 p hp hparent =>
    refine ⟨hm.insert (childrenAt_eq_nil (kindAt?_eq_none_iff.mpr hp)) (fun hq => ?_) _ _ _, ?_⟩
    · rw [hparent] at hq
      cases hq
    · rw [kindAt?_insert, if_pos rfl]
  | case3 p hp q hparent ih =>
    have below : q.contains p := Path.contains_of_parent?_eq hparent
    obtain ⟨tree, made⟩ := ih fun hr => habove (Path.contains_trans hr below)
    -- The directories above leave the path itself as free as it was.
    have free : (m.makeDirectories q).childrenAt p = [] := by
      refine (childrenAt_congr ?_).trans (childrenAt_eq_nil (kindAt?_eq_none_iff.mpr hp))
      exact get?_nodes_makeDirectories m q (Path.not_contains_of_parent?_eq hparent)
    refine ⟨tree.insert free (fun hq => ?_) _ _ _, ?_⟩
    · rw [hparent] at hq
      cases hq
      exact made
    · rw [kindAt?_insert, if_pos rfl]

/-- Before an object is placed, the directories above it are made. -/
theorem seedPath_eq_insert (m : Memory) (p : Path) (kind : Kind) (size : Num)
    (owner : Option Owner) : ∃ base size' owner', m.seedPath p kind size owner =
      insert base p kind size' owner' ∧
        match p.parent? with
        | none => base = m
        | some q => base = m.makeDirectories q := by
  unfold seedPath
  cases p.parent? with
  | none => exact ⟨m, _, _, rfl, rfl⟩
  | some q => exact ⟨m.makeDirectories q, _, _, rfl, rfl⟩

/-- An object that is placed where there is room for it keeps the tree. -/
theorem IsTree.seedPath (hm : m.IsTree) (hp : m.HasRoom p) (kind : Kind) (size : Num)
    (owner : Option Owner) : (m.seedPath p kind size owner).IsTree := by
  obtain ⟨base, size', owner', heq, hbase⟩ := m.seedPath_eq_insert p kind size owner
  rw [heq]
  cases hparent : p.parent? with
  | none =>
    rw [hparent] at hbase
    subst hbase
    refine hm.insert hp.childless (fun hq => ?_) _ _ _
    rw [hparent] at hq
    cases hq
  | some q =>
    rw [hparent] at hbase
    subst hbase
    have below : q.contains p := Path.contains_of_parent?_eq hparent
    obtain ⟨tree, made⟩ := hm.makeDirectories (p := q) fun hr hk => by
      refine hp.above (Path.contains_trans hr below) ?_ hk
      rintro rfl
      exact Path.not_contains_of_parent?_eq hparent hr
    have free : (m.makeDirectories q).childrenAt p = [] := by
      refine (childrenAt_congr ?_).trans hp.childless
      exact get?_nodes_makeDirectories m q (Path.not_contains_of_parent?_eq hparent)
    refine tree.insert free (fun hq => ?_) _ _ _
    rw [hparent] at hq
    cases hq
    exact made

/-- What stood before an object was placed still stands, and elsewhere with the same kind. -/
theorem kindAt?_seedPath (m : Memory) (p : Path) (kind : Kind) (size : Num) (owner : Option Owner)
    {k : Kind} (h : m.kindAt? r = some k) :
    (m.seedPath p kind size owner).kindAt? r = some (if r = p then kind else k) := by
  obtain ⟨base, size', owner', heq, hbase⟩ := m.seedPath_eq_insert p kind size owner
  rw [heq, kindAt?_insert]
  split
  · rfl
  · cases hparent : p.parent? with
    | none =>
      rw [hparent] at hbase
      rw [hbase, h]
    | some q =>
      rw [hparent] at hbase
      rw [hbase, kindAt?_makeDirectories h]

/-- Placing an object keeps the tree exactly if there is room for it: an object with children loses
them, and below a file nothing belongs. -/
theorem IsTree.seedPath_iff (tree : m.IsTree) (p : Path) (kind : Kind) (size : Num)
    (owner : Option Owner) : (m.seedPath p kind size owner).IsTree ↔ m.HasRoom p := by
  refine ⟨fun after => ⟨?_, ?_⟩, fun hp => tree.seedPath hp kind size owner⟩
  · -- A child that stood there would still stand, without being told of.
    rw [List.eq_nil_iff_forall_not_mem]
    intro q hq
    have hparent := tree.below hq
    obtain ⟨k, hk⟩ := Option.ne_none_iff_exists'.mp ((tree.linked hparent).mpr hq)
    have stands : (m.seedPath p kind size owner).kindAt? q ≠ none := by
      simp [kindAt?_seedPath m p kind size owner hk]
    have told := (after.linked hparent).mp stands
    obtain ⟨base, size', owner', heq, -⟩ := m.seedPath_eq_insert p kind size owner
    rw [heq, childrenAt_insert, if_pos rfl] at told
    cases told
  · -- What stands above the new object has to be a directory, and kept its kind.
    intro q k hq hne hk
    have stands : (m.seedPath p kind size owner).kindAt? p ≠ none := by
      obtain ⟨base, size', owner', heq, -⟩ := m.seedPath_eq_insert p kind size owner
      rw [heq, kindAt?_insert, if_pos rfl]
      simp
    have above := after.directory_above stands hq hne
    rw [kindAt?_seedPath m p kind size owner hk, if_neg hne] at above
    exact Option.some.inj above

/-- Where an object may be made, nothing stands, and a directory stands above. -/
theorem admits_ok (h : m.admits p = .ok ()) :
    m.kindAt? p = none ∧ ∃ q, p.parent? = some q ∧ m.kindAt? q = some .directory := by
  unfold admits at h
  obtain ⟨-, -, h⟩ := ok_of_bind h
  simp only at h
  split at h
  · cases h
  · next hfree =>
    refine ⟨kindAt?_eq_none_iff.mpr hfree, ?_⟩
    cases hparent : p.parent? with
    | none =>
      rw [hparent] at h
      cases h
    | some q =>
      rw [hparent] at h
      obtain ⟨node, hnode, h⟩ := ok_of_bind h
      split at h
      · cases h
      · next hkind =>
        refine ⟨q, rfl, ?_⟩
        rw [kindAt?, node?_eq_ok hnode]
        exact congrArg some (Decidable.not_not.mp hkind)

/-- The states to which directories, creations and placings with room lead.  What does not touch the
objects may happen at any time. -/
inductive Tended : Memory → Prop
  | created {owner : Owner} {capacityBytes : Num} {now : Instant} {texts : List String} {m : Memory}
      (h : (empty owner capacityBytes now).addDirectories texts = .ok m) : Tended m
  | create {m : Memory} (hm : Tended m) (s : Session) (text : String) (kind : Kind) :
      Tended ((backend.create s text kind).answer m).2
  | seed {m : Memory} (hm : Tended m) {text : String}
      (hroom : ∀ p, Path.ofText text = .ok p → m.HasRoom p) (kind : Kind) (size : Num)
      (owner : Option Owner) : Tended ((seed text kind size owner).answer m).2
  | aside {m m' : Memory} (hm : Tended m) (h : m'.nodes = m.nodes) : Tended m'

theorem isTree_addDirectories {texts : List String} (hm : m.IsTree)
    (honly : ∀ p k, m.kindAt? p = some k → k = .directory)
    (h : m.addDirectories texts = .ok m') : m'.IsTree := by
  induction texts generalizing m with
  | nil =>
    cases h
    exact hm
  | cons text rest ih =>
    rw [addDirectories] at h
    split at h
    · next p _ =>
      refine ih (hm.makeDirectories fun {q k} _ => honly q k).1 (fun r k hk => ?_) h
      rcases kindAt?_of_makeDirectories hk with hk | hk
      · exact hk
      · exact honly r k hk
    · cases h

theorem Tended.isTree (hm : Tended m) : m.IsTree := by
  induction hm with
  | @created owner capacityBytes now texts m h =>
    have nothing : ∀ p, ({ owner, capacityBytes, now } : Memory).kindAt? p = none := fun _ => rfl
    have none_told : ∀ p, ({ owner, capacityBytes, now } : Memory).childrenAt p = [] := fun _ => rfl
    have bare : ({ owner, capacityBytes, now } : Memory).IsTree := by
      refine ⟨fun _ => ?_, fun h => ?_, fun p => ?_, fun _ h => absurd (nothing _) h⟩
      · simp [nothing, none_told]
      · simp [none_told] at h
      · simp [none_told]
    refine isTree_addDirectories (bare.insert (none_told .root) nofun .directory 0 owner) ?_ h
    intro p k hk
    rw [kindAt?_insert, nothing] at hk
    grind
  | @create m hm s text kind tree =>
    rcases within_cases s _ m with h | h
    · exact tree.congr (congrArg nodes h)
    · rw [show backend.create s text kind = within s _ from rfl, h]
      cases Path.ofText text with
      | error r => exact tree
      | ok p =>
        simp only [createNode]
        cases hp : m.admits p with
        | error e => exact tree
        | ok _ =>
          obtain ⟨free, q, hparent, above⟩ := admits_ok hp
          refine tree.insert (childrenAt_eq_nil free) (fun hq => ?_) _ _ _
          rw [hparent] at hq
          cases hq
          exact above
  | @seed m hm text hroom kind size owner tree =>
    rw [Memory.seed, Call.answer_of]
    cases htext : Path.ofText text with
    | error r => exact tree
    | ok p => exact tree.seedPath (hroom p htext) kind size owner
  | aside _ h tree => exact tree.congr h

/-- A session that is open finds a name below a directory exactly if it is in the listing. -/
theorem IsTree.stat_iff_listed (tree : m.IsTree) (calm : m.failures = {}) {s : Session}
    (hs : m.sessions.isReleased s = false) (hp : m.kindAt? p = some .directory) :
    ∃ texts, ((backend.list s p.toText).answer m).1 = .ok texts ∧ ∀ n : Name,
      (∃ found, ((backend.stat s (p.child n).toText).answer m).1 = .ok found) ↔
        (p.child n).toText ∈ texts := by
  refine ⟨(m.childrenAt p).map Path.toText, by rw [answer_list calm hs, hp], fun n => ?_⟩
  have told : (p.child n).toText ∈ (m.childrenAt p).map Path.toText ↔
      p.child n ∈ m.childrenAt p := by
    simp [List.mem_map]
  rw [told, ← tree.linked (Path.parent?_child p n), answer_stat calm hs, kindAt?]
  cases m.nodes.get? (p.child n) <;> simp

/-- In every tended state, a path below the root has a node exactly if it is among the children of
its parent, where it is once, and its parent is a directory; so a session that is open finds a name
below a directory exactly if it is in the listing.  The next placing keeps it so exactly if there is
room for the object. -/
theorem Tended.agree (hm : Tended m) :
    (∀ {q p}, q.parent? = some p → (m.nodes.contains q ↔ q ∈ m.childrenAt p) ∧
      (m.nodes.contains q → (m.childrenAt p).count q = 1 ∧ m.kindAt? p = some .directory)) ∧
    (m.failures = {} → ∀ {s p}, m.sessions.isReleased s = false → m.kindAt? p = some .directory →
      ∃ texts, ((backend.list s p.toText).answer m).1 = .ok texts ∧ ∀ n : Name,
        (∃ found, ((backend.stat s (p.child n).toText).answer m).1 = .ok found) ↔
          (p.child n).toText ∈ texts) ∧
    ∀ p kind size owner, (m.seedPath p kind size owner).IsTree ↔ m.HasRoom p := by
  have tree := hm.isTree
  refine ⟨fun {q p} hq => ?_, fun calm {s p} hs hp => tree.stat_iff_listed calm hs hp,
    tree.seedPath_iff⟩
  have stands : m.nodes.contains q ↔ m.kindAt? q ≠ none := by
    rw [Ne, kindAt?_eq_none_iff, Decidable.not_not]
  refine ⟨stands.trans (tree.linked hq), fun hnode => ?_⟩
  have told := (tree.linked hq).mp (stands.mp hnode)
  exact ⟨List.count_eq_one_of_mem (tree.once p) told, tree.directory hq (stands.mp hnode)⟩

section Examples

/-- The path of the directory in the trees below. -/
def directoryPath : Path := ⟨[⟨"a", by decide⟩]⟩

/-- The path of the file in it. -/
def filePath : Path := directoryPath.child ⟨"b", by decide⟩

/-- A tree with a file in a directory. -/
def smallTree : Memory :=
  ((seed "/a/b" .file 0 none).answer (empty ⟨"rods", "tempZone"⟩ 1024 (.at 0))).2

theorem smallTree_agree :
    Tended smallTree ∧ smallTree.failures = {} ∧ smallTree.nodes.contains filePath ∧
      (smallTree.childrenAt directoryPath).count filePath = 1 ∧
      ∃ texts, ((backend.list 0 directoryPath.toText).answer smallTree).1 = .ok texts ∧
        ∀ n : Name, (∃ found,
          ((backend.stat 0 (directoryPath.child n).toText).answer smallTree).1 = .ok found) ↔
            (directoryPath.child n).toText ∈ texts := by
  have tended : Tended smallTree := by
    refine .seed (@Tended.created _ _ _ [] _ rfl) (fun p hp => ?_) _ _ _
    obtain rfl : p = filePath := Except.ok.inj (hp.symm.trans (by rfl))
    refine ⟨rfl, fun {q k} _ _ hk => ?_⟩
    rw [empty, kindAt?_insert] at hk
    split at hk
    · exact (Option.some.inj hk).symm
    · cases hk
  have stands : smallTree.nodes.contains filePath := by decide +kernel
  have calm : smallTree.failures = {} := by decide +kernel
  have inUse : smallTree.sessions.isReleased 0 = false := by decide +kernel
  have isDirectory : smallTree.kindAt? directoryPath = some .directory := by decide +kernel
  exact ⟨tended, calm, stands, ((tended.agree.1 (Path.parent?_child _ _)).2 stands).1,
    tended.agree.2.1 calm inUse isDirectory⟩

/-- The small tree after a directory was placed where one with a child stands. -/
def hidingTree : Memory := ((seed "/a" .directory 0 none).answer smallTree).2

/-- The small tree after a file was placed below a file. -/
def branchingTree : Memory := ((seed "/a/b/c" .file 0 none).answer smallTree).2

/-- A directory that is placed where one with a child stands hides the child: a session still finds
it and does not see it listed.  What is placed below a file stands in no directory. -/
theorem seed_tears_tree :
    (Reachable hidingTree ∧ hidingTree.nodes.contains filePath ∧
      filePath ∉ hidingTree.childrenAt directoryPath ∧
      (∃ found, ((backend.stat 0 filePath.toText).answer hidingTree).1 = .ok found) ∧
      ((backend.list 0 directoryPath.toText).answer hidingTree).1 = .ok []) ∧
    Reachable branchingTree ∧ branchingTree.kindAt? filePath = some .file ∧
      filePath.child ⟨"c", by decide⟩ ∈ branchingTree.childrenAt filePath := by
  have grown : Reachable smallTree :=
    (@Reachable.created _ _ _ [] _ rfl).called (.seed "/a/b" .file 0 none)
  have calm : hidingTree.failures = {} := by decide +kernel
  have inUse : hidingTree.sessions.isReleased 0 = false := by decide +kernel
  have found : ∃ found, ((backend.stat 0 filePath.toText).answer hidingTree).1 = .ok found := by
    obtain ⟨node, hnode⟩ : ∃ node, hidingTree.nodes.get? filePath = some node :=
      Option.isSome_iff_exists.mp (by decide +kernel)
    rw [answer_stat calm inUse, hnode]
    exact ⟨_, rfl⟩
  have listed : ((backend.list 0 directoryPath.toText).answer hidingTree).1 = .ok [] := by
    have isDirectory : hidingTree.kindAt? directoryPath = some .directory := by decide +kernel
    have bare : hidingTree.childrenAt directoryPath = [] := by decide +kernel
    rw [answer_list calm inUse, isDirectory, bare]
    rfl
  refine ⟨⟨grown.called (.seed "/a" .directory 0 none), ?_, ?_, found, listed⟩,
    grown.called (.seed "/a/b/c" .file 0 none), ?_, ?_⟩ <;> decide +kernel

end Examples

end Memory

end InodeGateway
