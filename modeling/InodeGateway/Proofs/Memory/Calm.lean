import InodeGateway.Proofs.Memory.Looks
import InodeGateway.Proofs.World.Triple

/-!
# Looking at a calm tree

Where no failure is wanted, sessions that only look find the tree as it was and leave it so: all
that they change is the record of sessions.

## Main definitions

* `Memory.Still` — the tree is the one that it was, whatever sessions there were meanwhile
* `Memory.InUse` — the same, with a session open

## Main statements

* `Memory.session_triple` — a session begins and ends
* `Memory.stat_triple`, `Memory.list_triple` — what is told of the tree as it was
-/

namespace InodeGateway.Memory

variable {α : Type} {m b : Memory} {s : Session} {K : Inodes → Prop}

/-- The second backend differs from the first one in its sessions at most. -/
def Still (m b : Memory) : Prop := b = { m with sessions := b.sessions }

/-- Besides, this session of it is open. -/
def InUse (m : Memory) (s : Session) (b : Memory) : Prop :=
  Still m b ∧ b.sessions.isReleased s = false

theorem Still.refl (m : Memory) : Still m m := rfl

theorem Still.nodes (h : Still m b) : b.nodes = m.nodes := by rw [h]

theorem Still.failures (h : Still m b) : b.failures = m.failures := by rw [h]

theorem Still.openSession (h : Still m b) :
    ∃ s after, Memory.openSession.answer b = (.ok s, after) ∧ InUse m s after := by
  refine ⟨_, _, rfl, ?_, b.sessions.isReleased_acquire⟩
  rw [Still, h]

/-- A session is released, whether or not that is wanted to fail. -/
theorem InUse.release (h : InUse m s b) : Still m ((Memory.release s).answer b).2 := by
  obtain ⟨still, hs⟩ := h
  rw [Memory.release, Call.answer_of, hs, Still, still]
  cases m.failsReleases <;> rfl

theorem openSession_triple :
    Act.Triple (fun b t => Still m b ∧ K t) (Act.call backend.openSession)
      (fun s b t => InUse m s b ∧ K t) fun _ _ _ => False := by
  refine .call fun b t ⟨still, hK⟩ => ?_
  obtain ⟨s, after, heq, inUse⟩ := still.openSession
  rw [show backend.openSession = Memory.openSession from rfl, heq]
  refine ⟨fun s' hs' => ?_, nofun⟩
  cases hs'
  exact ⟨inUse, hK⟩

/-- What is found by a session that only looks is what is found with that session. -/
theorem session_triple {body : Session → Act Memory α} {Q : α → Inodes → Prop}
    {F : Failure → Inodes → Prop}
    (hbody : ∀ s, Act.Triple (fun b t => InUse m s b ∧ K t) (body s)
      (fun x b t => InUse m s b ∧ Q x t) (fun f b t => InUse m s b ∧ F f t)) :
    Act.Triple (fun b t => Still m b ∧ K t) (Act.withSession backend body)
      (fun x b t => Still m b ∧ Q x t) (fun f b t => Still m b ∧ F f t) := by
  refine .withSession (openSession_triple.weaken_fails fun _ _ _ h => h.elim) hbody ?_ ?_
  · rintro s x b t ⟨inUse, hQ⟩
    exact ⟨inUse.release, hQ⟩
  · rintro s f b t ⟨inUse, hF⟩
    exact ⟨inUse.release, hF⟩

section Calm

variable (calm : m.failures = {})
include calm

theorem stat_triple (s : Session) (p : Path) :
    Act.Triple (fun b t => InUse m s b ∧ K t) (Act.call (backend.stat s p.toText))
      (fun found b t => (∃ node, m.nodes.get? p = some node ∧ found = metadataOf p node) ∧
        InUse m s b ∧ K t)
      (fun f b t => InUse m s b ∧ K t ∧ m.nodes.get? p = none ∧ f = missing p) := by
  refine .call fun b _ ⟨⟨still, hs⟩, hK⟩ => ?_
  rw [answer_stat (still.failures.trans calm) hs, still.nodes]
  cases hp : m.nodes.get? p with
  | none => exact ⟨nofun, fun f hf => ⟨⟨still, hs⟩, hK, rfl, (Except.error.inj hf).symm⟩⟩
  | some node => exact ⟨fun found hfound => ⟨⟨node, rfl, (Except.ok.inj hfound).symm⟩,
      ⟨still, hs⟩, hK⟩, nofun⟩

theorem list_triple (s : Session) (p : Path) :
    Act.Triple (fun b t => InUse m s b ∧ K t) (Act.call (backend.list s p.toText))
      (fun texts b t => (m.kindAt? p = some .directory ∧
        texts = (m.childrenAt p).map Path.toText) ∧ InUse m s b ∧ K t)
      (fun _ b _ => InUse m s b ∧ m.kindAt? p ≠ some .directory) := by
  refine .call fun b _ ⟨⟨still, hs⟩, hK⟩ => ?_
  rw [answer_list (still.failures.trans calm) hs, kindAt?_congr (m := m) (by rw [still.nodes]),
    childrenAt_congr (m := m) (by rw [still.nodes])]
  split
  · next hp =>
    exact ⟨fun texts htexts => ⟨⟨hp, (Except.ok.inj htexts).symm⟩, ⟨still, hs⟩, hK⟩, nofun⟩
  · next hp => exact ⟨nofun, fun f _ => ⟨⟨still, hs⟩, by simp [hp]⟩⟩
  · next hp => exact ⟨nofun, fun f _ => ⟨⟨still, hs⟩, by simp [hp]⟩⟩

end Calm

end InodeGateway.Memory
