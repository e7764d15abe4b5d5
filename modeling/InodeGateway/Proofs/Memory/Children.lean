import InodeGateway.Proofs.Arguments
import InodeGateway.Proofs.Memory.Reachable
import InodeGateway.Proofs.OrderedMap
import InodeGateway.Proofs.Path.Ancestry

/-!
# Children in the tree in memory

A node is linked into the node at its parent's path and into no other, so that listing a directory
tells of its immediate children only.

## Main definitions

* `Memory.ChildrenBelow` — the children of a node lie immediately below it

## Main statements

* `Memory.Reachable.childrenBelow` — so it is in every state
* `Memory.children_of_ofText` — what a listing tells
* `Memory.Reachable.exists_child_of_list` — what a listing tells are immediate children
-/

namespace InodeGateway.Memory

/-- The children of each node have its path as their parent. -/
def ChildrenBelow (nodes : OrderedMap Path Node) : Prop :=
  ∀ p node, nodes.get? p = some node → ∀ q ∈ node.children, q.parent? = some p

variable {m : Memory} {p q : Path}

theorem mem_children_link {now : Instant} {parent : Node}
    (h : q ∈ (link now p parent).children) : q ∈ parent.children ∨ q = p := by
  unfold link at h
  split at h
  · exact .inl h
  · simpa using h

/-- A node that is written has no children yet, and it is linked into the node of its parent. -/
theorem ChildrenBelow.insert (hm : ChildrenBelow m.nodes) (p : Path) (kind : Kind) (size : Num)
    (owner : Owner) : ChildrenBelow (m.insert p kind size owner).nodes := by
  have written : ∀ node : Node, node.children = [] → ChildrenBelow (m.nodes.insert p node) := by
    intro node hnode p' node' hget q hq
    rw [OrderedMap.get?_insert] at hget
    split at hget
    · cases hget
      simp [hnode] at hq
    · exact hm p' node' hget q hq
  unfold Memory.insert
  cases hparent : p.parent? with
  | none => exact written _ rfl
  | some r =>
    intro p' node' hget q hq
    simp only [OrderedMap.get?_modify] at hget
    split at hget
    · -- The node of the parent: what it held before, and the new path.
      next hr =>
      subst hr
      obtain ⟨node, hnode, rfl⟩ := Option.map_eq_some_iff.mp hget
      rcases mem_children_link hq with hold | rfl
      · exact written _ rfl _ node hnode q hold
      · exact hparent
    · exact written _ rfl p' node' hget q hq

/-- In every state, the children of each node lie immediately below it. -/
theorem Reachable.childrenBelow (h : Reachable m) : ChildrenBelow m.nodes :=
  h.nodes_induction (fun _ p kind size owner hm => ChildrenBelow.insert hm p kind size owner)
    fun _ _ hget => nomatch hget

theorem node?_eq_ok {node : Node} (h : m.node? p = .ok node) : m.nodes.get? p = some node := by
  unfold node? at h
  obtain ⟨-, -, h⟩ := ok_of_bind h
  split at h
  · next found hget =>
    cases h
    exact hget
  · cases h

/-- What is said of an object that is listed and is no directory.  It is told by the text that was
asked for. -/
def notCollection (text : String) : Failure := .backend .io "Not a collection" (some text)

/-- What a listing of a path tells; the text is told by its own failure alone. -/
theorem children_of_ofText {text : String} (hp : Path.ofText text = .ok p) (m : Memory) :
    m.children text =
      match m.node? p with
      | .error f => .error f
      | .ok node =>
        if node.kind = .directory then .ok (node.children.map Path.toText)
        else .error (notCollection text) := by
  rw [children, hp]
  show (m.node? p >>= _ : Except Failure (List String)) = _
  cases m.node? p with
  | error f => rfl
  | ok node =>
    by_cases hkind : node.kind = .directory <;> simp [bind, Except.bind, hkind] <;> rfl

/-- A listing tells the written paths of the children of a node. -/
theorem children_eq_ok {text : String} {texts : List String} (hp : Path.ofText text = .ok p)
    (h : m.children text = .ok texts) :
    ∃ node, m.nodes.get? p = some node ∧ texts = node.children.map Path.toText := by
  rw [children_of_ofText hp] at h
  cases hnode : m.node? p with
  | error f =>
    rw [hnode] at h
    cases h
  | ok node =>
    rw [hnode] at h
    refine ⟨node, node?_eq_ok hnode, ?_⟩
    simp only at h
    split at h
    · exact (Except.ok.inj h).symm
    · cases h

/-- A session that lists is told the children, if it is told anything. -/
theorem children_of_list {s : Session} {text : String} {texts : List String}
    (h : ((backend.list s text).answer m).1 = .ok texts) : m.children text = .ok texts := by
  rw [show backend.list s text = within s fun m => (m.children text, m) from rfl, within,
    Call.answer_of] at h
  split at h
  · exact h
  · cases h

/-- In every state, a listing tells of immediate children only. -/
theorem Reachable.exists_child_of_list (hm : Reachable m) {s : Session} {texts : List String}
    (h : ((backend.list s p.toText).answer m).1 = .ok texts) {text : String}
    (htext : text ∈ texts) : ∃ n, Path.ofText text = .ok (p.child n) := by
  obtain ⟨node, hget, rfl⟩ := children_eq_ok p.ofText_toText (children_of_list h)
  obtain ⟨q, hq, rfl⟩ := List.mem_map.mp htext
  obtain ⟨n, rfl⟩ := Path.exists_child_of_parent? (hm.childrenBelow p node hget q hq)
  exact ⟨n, Path.ofText_toText _⟩

end InodeGateway.Memory
