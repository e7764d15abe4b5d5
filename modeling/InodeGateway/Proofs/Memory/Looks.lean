import InodeGateway.Proofs.Memory.Alike
import InodeGateway.Proofs.Memory.Children

/-!
# What open sessions see of the tree in memory

As long as no failure is wanted, what a session that is open is told depends on the node at the path
alone.

## Main definitions

* `Memory.kindAt?`, `Memory.childrenAt` — what stands at a path
* `Memory.metadataOf` — how a node at a path is described

## Main statements

* `Memory.answer_stat`, `Memory.answer_list` — what a session is told about a path
* `Memory.answer_create` — what a session makes of the tree
-/

namespace InodeGateway.Memory

variable {m m' : Memory} {p : Path} {s : Session}

/-- The kind of the object at a path, if there is one. -/
def kindAt? (m : Memory) (p : Path) : Option Kind := (m.nodes.get? p).map Node.kind

/-- The children that the node at a path tells of. -/
def childrenAt (m : Memory) (p : Path) : List Path := (m.nodes.get? p).elim [] Node.children

theorem kindAt?_eq_none_iff : m.kindAt? p = none ↔ ¬ m.nodes.contains p := by
  simp [kindAt?, OrderedMap.contains]

theorem childrenAt_eq_nil (h : m.kindAt? p = none) : m.childrenAt p = [] := by
  rw [kindAt?, Option.map_eq_none_iff] at h
  rw [childrenAt, h]
  rfl

theorem kindAt?_congr (h : m'.nodes.get? p = m.nodes.get? p) : m'.kindAt? p = m.kindAt? p :=
  congrArg (Option.map Node.kind) h

theorem childrenAt_congr (h : m'.nodes.get? p = m.nodes.get? p) :
    m'.childrenAt p = m.childrenAt p :=
  congrArg (fun found => Option.elim found [] Node.children) h

/-- The description of a node at a path. -/
def metadataOf (p : Path) (node : Node) : Metadata where
  path := p.toText
  kind := node.kind
  sizeBytes := node.sizeBytes
  ownerName := node.ownerName
  ownerZone := node.ownerZone
  createdAt := node.createdAt
  modifiedAt := node.modifiedAt

/-- What is described is a node of the tree. -/
theorem node_of_stat {text : String} {d : Metadata}
    (h : ((backend.stat s text).answer m).1 = .ok d) :
    ∃ p node, Path.ofText text = .ok p ∧ m.nodes.get? p = some node ∧ d = metadataOf p node := by
  rw [show backend.stat s text = withinAt s text describe from rfl, withinAt, within,
    Call.answer_of] at h
  cases hopen : m.sessions.ensureOpen s none with
  | error e => simp [hopen] at h
  | ok _ =>
    cases hp : Path.ofText text with
    | error r => simp [hopen, hp] at h
    | ok p =>
      simp only [hopen, hp, describe, node?] at h
      obtain ⟨node, hnode, h⟩ := ok_of_bind h
      obtain ⟨_, -, hnode⟩ := ok_of_bind hnode
      cases hget : m.nodes.get? p with
      | none => simp [hget] at hnode
      | some found =>
        rw [hget] at hnode
        obtain rfl : found = node := Except.ok.inj hnode
        cases h
        exact ⟨p, found, rfl, hget, rfl⟩

/-- What is said of a path without a node. -/
def missing (p : Path) : Failure := .backend .notFound "Object not found" (some p.toText)

section Clear

variable (clear : m.checkFailure p = .ok ())
include clear

/-- Where no failure is wanted, the rights are told. -/
theorem permissionsAt_clear : m.permissionsAt p = .ok ((m.overrides.get? p).getD {}) := by
  rw [permissionsAt, clear]
  rfl

/-- Where no failure is wanted, there is a node or none. -/
theorem node?_clear :
    m.node? p = match m.nodes.get? p with
      | some node => .ok node
      | none => .error (missing p) := by
  rw [node?, clear]
  rfl

/-- An open session is told how the node at a path looks. -/
theorem answer_stat_clear (hs : m.sessions.isReleased s = false) :
    (backend.stat s p.toText).answer m =
      (match m.nodes.get? p with
        | some node => .ok (metadataOf p node)
        | none => .error (missing p), m) := by
  rw [show backend.stat s p.toText = withinAt s p.toText describe from rfl, withinAt,
    answer_within hs, Path.ofText_toText]
  simp only [describe, node?_clear clear]
  cases m.nodes.get? p <;> rfl

end Clear

/-- An open session makes an object at a path. -/
theorem answer_create (hs : m.sessions.isReleased s = false) (p : Path) (kind : Kind) :
    (backend.create s p.toText kind).answer m = m.createNode p kind := by
  refine (answer_within hs).trans ?_
  simp only [Path.ofText_toText]

section Calm

variable (calm : m.failures = {})
include calm

theorem checkFailure_calm (p : Path) : m.checkFailure p = .ok () := by
  rw [checkFailure, calm]
  rfl

theorem permissionsAt_calm (p : Path) : m.permissionsAt p = .ok ((m.overrides.get? p).getD {}) :=
  permissionsAt_clear (checkFailure_calm calm p)

theorem answer_stat (hs : m.sessions.isReleased s = false) (p : Path) :
    (backend.stat s p.toText).answer m =
      (match m.nodes.get? p with
        | some node => .ok (metadataOf p node)
        | none => .error (missing p), m) :=
  answer_stat_clear (checkFailure_calm calm p) hs

/-- An open session is told the children of a directory. -/
theorem answer_list (hs : m.sessions.isReleased s = false) (p : Path) :
    (backend.list s p.toText).answer m =
      (match m.kindAt? p with
        | some .directory => .ok ((m.childrenAt p).map Path.toText)
        | some .file => .error (.backend .io "Not a collection" (some p.toText))
        | none => .error (missing p), m) := by
  rw [show backend.list s p.toText = within s fun m => (m.children p.toText, m) from rfl,
    answer_within hs]
  simp only [children_of_ofText p.ofText_toText, node?_clear (checkFailure_calm calm p), kindAt?,
    childrenAt]
  cases m.nodes.get? p with
  | none => rfl
  | some node => cases hkind : node.kind <;> simp [hkind, notCollection]

end Calm

end InodeGateway.Memory
