import InodeGateway.Proofs.World.Session

/-!
# Agreement of actions

Two actions agree along a relation of worlds if, started in related worlds, they give the same
answer and end in related worlds.  Rules compose agreements the way actions are composed.

## Main definitions

* `Act.Agree` — two actions agree along a relation of worlds
* `Act.Alongside` — relations of worlds with the same table, journal and observer's record, that
  the steps on these keep

## Main statements

* `Act.Agree.bind`, `Act.Agree.withSession` — the rules for sequences and sessions
-/

namespace InodeGateway

namespace Act

variable {σ τ α α' β : Type}

/-- Started in related worlds, both actions give the same answer and end in related worlds. -/
def Agree (R : World σ → World τ → Prop) (a : Act σ α) (a' : Act τ α) : Prop :=
  ∀ w w', R w w' → (a'.answer w').1 = (a.answer w).1 ∧ R (a.answer w).2 (a'.answer w').2

/-- The related worlds have the same table, and steps on the table, the journal and the observer's
record keep them related. -/
structure Alongside (R : World σ → World τ → Prop) : Prop where
  inodes : ∀ {w w'}, R w w' → w'.inodes = w.inodes
  setInodes : ∀ {w w'}, R w w' → ∀ t, R { w with inodes := t } { w' with inodes := t }
  note : ∀ {w w'}, R w w' → ∀ level message fields,
    R (w.note level message fields) (w'.note level message fields)
  observe : ∀ {w w'}, R w w' → ∀ operation outcome,
    R (w.observe operation outcome) (w'.observe operation outcome)

namespace Agree

variable {R : World σ → World τ → Prop} {a : Act σ α} {a' : Act τ α}

/-- Two actions that agree fail together or answer together. -/
theorem outcome (ha : Agree R a a') {w : World σ} {w' : World τ} (hR : R w w') :
    (∃ f v v', a.answer w = (.error f, v) ∧ a'.answer w' = (.error f, v') ∧ R v v') ∨
      ∃ x v v', a.answer w = (.ok x, v) ∧ a'.answer w' = (.ok x, v') ∧ R v v' := by
  obtain ⟨same, after⟩ := ha w w' hR
  rcases heq : a.answer w with ⟨r, v⟩
  rcases heq' : a'.answer w' with ⟨r', v'⟩
  rw [heq, heq'] at same after
  cases same
  cases r with
  | error f => exact .inl ⟨f, v, v', rfl, rfl, after⟩
  | ok x => exact .inr ⟨x, v, v', rfl, rfl, after⟩

theorem pure (x : α) : Agree R (Pure.pure x : Act σ α) (Pure.pure x : Act τ α) :=
  fun _ _ hR => ⟨rfl, hR⟩

theorem result (r : Except Failure α) : Agree R (Act.result r : Act σ α) (Act.result r : Act τ α) :=
  fun _ _ hR => ⟨rfl, hR⟩

theorem fail (f : Failure) : Agree R (Call.fail f : Act σ α) (Call.fail f : Act τ α) :=
  fun _ _ hR => ⟨rfl, hR⟩

theorem check (r : Except Refusal α) : Agree R (Act.check r : Act σ α) (Act.check r : Act τ α) :=
  result _

/-- What follows may agree on results that are related and not the same. -/
theorem bind_related {a' : Act τ α'} {k : α → Act σ β} {k' : α' → Act τ β} {S : α → α' → Prop}
    (ha : ∀ w w', R w w' →
      (∃ f v v', a.answer w = (.error f, v) ∧ a'.answer w' = (.error f, v') ∧ R v v') ∨
        ∃ x x' v v', a.answer w = (.ok x, v) ∧ a'.answer w' = (.ok x', v') ∧ S x x' ∧ R v v')
    (hk : ∀ x x', S x x' → Agree R (k x) (k' x')) : Agree R (a >>= k) (a' >>= k') := by
  intro w w' hR
  rw [Call.answer_bind, Call.answer_bind]
  rcases ha w w' hR with ⟨f, v, v', heq, heq', after⟩ | ⟨x, x', v, v', heq, heq', hS, after⟩
  · rw [heq, heq']
    exact ⟨rfl, after⟩
  · rw [heq, heq']
    exact hk x x' hS v v' after

theorem bind {k : α → Act σ β} {k' : α → Act τ β} (ha : Agree R a a')
    (hk : ∀ x, Agree R (k x) (k' x)) : Agree R (a >>= k) (a' >>= k') := by
  refine bind_related (S := Eq) (fun w w' hR => ?_) fun x _ same => same ▸ hk x
  rcases ha.outcome hR with fails | ⟨x, v, v', heq, heq', after⟩
  · exact .inl fails
  · exact .inr ⟨x, x, v, v', heq, heq', rfl, after⟩

theorem map (f : α → β) (ha : Agree R a a') : Agree R (f <$> a) (f <$> a') := by
  rw [map_eq_pure_bind, map_eq_pure_bind]
  exact ha.bind fun x => pure (f x)

theorem explain (f : Failure → Failure) (ha : Agree R a a') :
    Agree R (a.explain f) (a'.explain f) := by
  intro w w' hR
  obtain ⟨same, after⟩ := ha w w' hR
  exact ⟨by rw [answer_explain, answer_explain, same], after⟩

theorem orMissing (default : α) (ha : Agree R a a') :
    Agree R (a.orMissing default) (a'.orMissing default) := by
  intro w w' hR
  rw [Act.orMissing, Act.orMissing, Call.answer_of, Call.answer_of]
  rcases ha.outcome hR with ⟨f, v, v', heq, heq', after⟩ | ⟨x, v, v', heq, heq', after⟩ <;>
    · rw [heq, heq']
      exact ⟨rfl, after⟩

section Alongside

variable (P : Alongside R)
include P

theorem table (f : Inodes → Except Refusal α × Inodes) :
    Agree R (Act.table f : Act σ α) (Act.table f : Act τ α) := by
  intro w w' hR
  rw [answer_table, answer_table, P.inodes hR]
  exact ⟨rfl, P.setInodes hR _⟩

theorem look (f : Inodes → Except Refusal α) :
    Agree R (Act.look f : Act σ α) (Act.look f : Act τ α) :=
  table P _

theorem note (level : Journal.Level) (message : String) (fields : Journal.Fields) :
    Agree R (Act.note level message fields : Act σ Unit) (Act.note level message fields) :=
  fun _ _ hR => ⟨rfl, P.note hR level message fields⟩

end Alongside

/-- The bodies agree for every session, and releasing one keeps the worlds related; the releases
need not succeed together. -/
theorem withSession {b : Backend σ} {b' : Backend τ} {body : Session → Act σ α}
    {body' : Session → Act τ α} (hopen : Agree R (call b.openSession) (call b'.openSession))
    (hbody : ∀ s, Agree R (body s) (body' s))
    (hrelease : ∀ s w w', R w w' → R (World.afterRelease b s w) (World.afterRelease b' s w')) :
    Agree R (Act.withSession b body) (Act.withSession b' body') := by
  intro w w' hR
  rw [answer_withSession, answer_withSession]
  rcases hopen.outcome hR with ⟨f, v, v', heq, heq', after⟩ | ⟨s, v, v', heq, heq', after⟩
  · rw [heq, heq']
    exact ⟨rfl, after⟩
  · -- The session has the same number on both sides, so that the bodies agree on it.
    rw [heq, heq']
    obtain ⟨same, worked⟩ := hbody s v v' after
    exact ⟨same, hrelease s _ _ worked⟩

end Agree

end Act

end InodeGateway
