import InodeGateway.Proofs.Gateway.Creation
import InodeGateway.Proofs.Gateway.Footprint

/-!
# Gateways over a tree in memory

A gateway over a tree in memory opens at a directory that can be read, and what the sessions of the
tree keep, it keeps.

## Main statements

* `Gateway.Preserves.beside` — what calls keep, they keep beside a registry of identities
* `Gateway.preserves_besideTree` — what sessions and creations keep, the gateway keeps
* `Gateway.mount_beside` — where the root can be read, the gateway opens
-/

namespace InodeGateway

namespace Memory

variable {m : Memory} {p : Path} {s : Session}

/-- An open session is told the rights at a path. -/
theorem answer_permits (clear : m.checkFailure p = .ok ()) (hs : m.sessions.isReleased s = false)
    (right : Right) :
    (backend.permits s right p.toText).answer m =
      (.ok (((m.overrides.get? p).getD {}).grants right), m) := by
  refine (answer_within hs).trans ?_
  simp only [Path.ofText_toText, permissionsAt_clear clear]
  rfl

end Memory

namespace Gateway

variable {σ ι : Type} {identities : Identity.Registry ι} {permissions : PermissionModel}
  {rootPath : Path}

theorem Preserves.beside {b : Backend σ} {directory : Identity.Registry σ} {Q : σ → Prop}
    (kept : Preserves ⟨b, directory, permissions, rootPath⟩ Q) :
    Preserves ⟨b.beside, identities.beside, permissions, rootPath⟩ fun s => Q s.storage := by
  intro α c hc s hs
  cases hc with
  | openSession => exact kept .openSession _ hs
  | stat s' path => exact kept (.stat s' path) _ hs
  | permits s' right path => exact kept (.permits s' right path) _ hs
  | create s' path kind => exact kept (.create s' path kind) _ hs
  | list s' path => exact kept (.list s' path) _ hs
  | capacity hcapacity s' =>
    obtain ⟨space, hspace, rfl⟩ := Option.map_eq_some_iff.mp hcapacity
    exact kept (.capacity hspace s') _ hs
  | release s' => exact kept (.release s') _ hs
  | identity owner => exact hs

/-- What sessions and creations keep of the tree, the gateway keeps. -/
theorem preserves_besideTree {Q : Memory → Prop}
    (hsessions : ∀ m sessions, Q m → Q { m with sessions := sessions })
    (hcreate : ∀ m p kind, m.admits p = .ok () → Q m → Q (m.withObject p kind)) :
    (besideTree identities permissions rootPath).Preserves fun b => Q b.storage := by
  have created : ∀ s text kind m, Q m → Q ((Memory.backend.create s text kind).answer m).2 := by
    intro s text kind m hm
    rw [show Memory.backend.create s text kind = Memory.within s _ from rfl]
    rcases Memory.within_cases s _ m with h | h
    · rwa [h]
    · rw [h]
      cases Path.ofText text with
      | error r => exact hm
      | ok p =>
        simp only [Memory.createNode]
        cases hp : m.admits p with
        | error f => exact hm
        | ok _ => exact hcreate m p kind hp hm
  have making : Preserves ⟨Memory.backend, Identity.passthrough.registry, permissions, rootPath⟩ Q :=
    preserves_making permissions rootPath Memory.backend.create hsessions created _
  intro α c hc s hs
  exact Preserves.beside making hc s hs

section Opening

variable {m : Memory} {i : ι} {node : Node} (calm : m.failures = {})
  (hnode : m.nodes.get? rootPath = some node)
  (readable : ((m.overrides.get? rootPath).getD {}).read = true)
include calm hnode readable

theorem rootReadable_beside (s : Session) :
    Act.Triple (Site.Holds (fun b _ => Memory.InUse m s b) (· = i))
      ((besideTree identities permissions rootPath).rootReadable s)
      (fun answer => Site.Holds (fun b _ => Memory.InUse m s b ∧ answer = true) (· = i))
      fun _ _ _ => False := by
  have looked : Act.Triple (fun b _ => Memory.InUse m s b)
      (Act.call (Memory.backend.stat s rootPath.toText)) (fun _ b _ => Memory.InUse m s b)
      fun _ _ _ => False := by
    refine .call_ok ?_
    rintro b t ⟨still, hs⟩
    refine ⟨Memory.metadataOf rootPath node, b, ?_, still, hs⟩
    rw [Memory.answer_stat (still.failures.trans calm) hs, still.nodes, hnode]
  have asked : Act.Triple (fun b _ => Memory.InUse m s b)
      (Act.call (Memory.backend.permits s .read rootPath.toText))
      (fun answer b _ => Memory.InUse m s b ∧ answer = true) fun _ _ _ => False := by
    refine .call_ok ?_
    rintro b t ⟨still, hs⟩
    refine ⟨_, b, Memory.answer_permits (Memory.checkFailure_calm (still.failures.trans calm) _) hs
      .read, ⟨still, hs⟩, ?_⟩
    rw [still]
    exact readable
  have both := Act.Triple.bind (Site.storing_triple (R := (· = i)) looked)
    fun _ => Site.storing_triple asked
  have certain : Act.Triple _ _ _ fun _ _ _ => False := both.weaken_fails fun _ _ _ h => h.1
  exact .explain (.orMissing certain (fun _ _ _ _ h => h.elim) fun _ _ _ _ h => h.elim)

/-- Where the root can be read and the table is empty, the gateway opens. -/
theorem mount_beside {root : String} (hroot : Path.ofText root = .ok rootPath) :
    Act.Triple (Site.Holds (fun b t => Memory.Still m b ∧ t = {}) (· = i))
      (mount Memory.backend.beside identities.beside permissions root)
      (fun p b _ => Memory.Still m b.storage ∧ p = rootPath) fun _ _ _ => False := by
  have opens : Act.Triple (Site.Holds (fun b t => Memory.Still m b ∧ t = {}) (· = i))
      (Act.withSession Memory.backend.beside
        (besideTree identities permissions rootPath).rootReadable)
      (fun answer => Site.Holds (fun b t => Memory.Still m b ∧ answer = true ∧ t = {}) (· = i))
      fun f b t => Memory.Still m b.storage ∧ False := by
    refine Memory.session_beside (F := fun _ _ => False) fun s => ?_
    intro w hw
    -- Looking leaves the table as it is, which is all that is kept of it here.
    have leaves := leaves_rootReadable (besideTree identities permissions rootPath) s {} w hw.1.2
    have answered : Act.Triple _
        ((besideTree identities permissions rootPath).rootReadable s) _ _ :=
      rootReadable_beside calm hnode readable (i := i) s
    have ends := answered w ⟨hw.1.1, hw.2⟩
    rcases heq : ((besideTree identities permissions rootPath).rootReadable s).answer w with
      ⟨f | answer, after⟩ <;> rw [heq] at ends leaves
    · exact ends.elim
    · exact ⟨⟨ends.1.1, ends.1.2, leaves⟩, ends.2⟩
  unfold mount
  refine .check_bind hroot (.bind (.note _ _ _) fun _ => .bind (opens.weaken_fails
    fun _ _ _ h => h.2) fun answer => ?_)
  intro w hw
  obtain ⟨⟨still, rfl, hempty⟩, -⟩ := hw
  have mounts : (w.inodes.mountRoot rootPath).1 = .ok () := by
    rw [hempty]
    rfl
  simp only [if_true, Call.answer_bind, Act.answer_table, mounts]
  exact ⟨still, rfl⟩

end Opening

end Gateway

end InodeGateway
