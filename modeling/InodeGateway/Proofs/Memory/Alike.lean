import InodeGateway.Backend.Memory
import InodeGateway.Proofs.World.Relation

/-!
# Backends in memory that differ in their sessions only

The number of a session tells how many were opened before it, and nothing else depends on that.  So
two backends in memory that differ in the sessions of the past answer alike.

## Main definitions

* `Memory.Alike` — two backends that differ at most in the sessions of the past
* `Memory.Within` — the same, with a session open on either side

## Main statements

* `Memory.Alike.openSession`, `Memory.Within.release` — a session begins and ends on both sides
* `Memory.within_twins` — what does not look at sessions is answered alike
-/

namespace InodeGateway.Memory

variable {α : Type} {m m' : Memory} {s s' : Session}

/-- The second backend differs from the first one at most in the sessions of the past; as many are
in use. -/
def Alike (m m' : Memory) : Prop :=
  m' = { m with sessions := m'.sessions } ∧ m'.sessions.active = m.sessions.active

/-- The two backends are alike, and these sessions of them are open. -/
def Within (s s' : Session) (m m' : Memory) : Prop :=
  Alike m m' ∧ m.sessions.isReleased s = false ∧ m'.sessions.isReleased s' = false

/-- A session is opened on both sides. -/
theorem Alike.openSession : Call.Relates Alike openSession openSession Within Alike := by
  rintro m m' ⟨heq, hactive⟩
  refine .inl ⟨_, _, _, _, rfl, rfl, ⟨?_, ?_⟩, ?_, ?_⟩
  · rw [heq]
  · exact congrArg (· + 1) hactive
  · exact m.sessions.isReleased_acquire
  · exact m'.sessions.isReleased_acquire

/-- The open session is released on both sides, whether or not that is wanted to fail. -/
theorem Within.release (h : Within s s' m m') :
    Alike ((release s).answer m).2 ((Memory.release s').answer m').2 := by
  obtain ⟨⟨heq, hactive⟩, hs, hs'⟩ := h
  have released : ∀ {m : Memory} {s : Session}, m.sessions.isReleased s = false →
      ((Memory.release s).answer m).2 = { m with sessions := m.sessions.release s } := by
    intro m s hs
    rw [Memory.release, Call.answer_of, hs]
    cases m.failsReleases <;> rfl
  rw [released hs, released hs']
  refine ⟨?_, congrArg (· - 1) hactive⟩
  rw [heq]

/-- A call of an open session is answered by what was asked. -/
theorem answer_within {f : Memory → Except Failure α × Memory}
    (hs : m.sessions.isReleased s = false) : (within s f).answer m = f m := by
  rw [within, Call.answer_of, Sessions.ensureOpen, hs]
  rfl

/-- What does not look at the sessions is answered alike. -/
theorem within_twins {f : Memory → Except Failure α × Memory}
    (hf : ∀ m sessions, f { m with sessions := sessions } =
      ((f m).1, { (f m).2 with sessions := sessions })) (s s' : Session) :
    Call.Twins (Within s s') (within s f) (within s' f) := by
  rintro m m' ⟨⟨heq, hactive⟩, hs, hs'⟩
  have kept : (f m).2.sessions = m.sessions :=
    congrArg (fun outcome => outcome.2.sessions) (hf m m.sessions)
  have other : f m' = ((f m).1, { (f m).2 with sessions := m'.sessions }) :=
    (congrArg f heq).trans (hf m m'.sessions)
  have still : Within s s' (f m).2 { (f m).2 with sessions := m'.sessions } :=
    ⟨⟨rfl, kept ▸ hactive⟩, kept ▸ hs, hs'⟩
  rw [answer_within hs, answer_within hs', other]
  rcases heq : f m with ⟨e | x, after⟩ <;> rw [heq] at still
  · exact .inr ⟨e, _, _, rfl, rfl, still⟩
  · exact .inl ⟨x, x, _, _, rfl, rfl, still, rfl⟩

theorem withinAt_twins {f : Memory → Path → Except Failure α}
    (hf : ∀ m sessions p, f { m with sessions := sessions } p = f m p) (s s' : Session)
    (text : String) : Call.Twins (Within s s') (withinAt s text f) (withinAt s' text f) := by
  refine within_twins (fun m sessions => ?_) s s'
  cases Path.ofText text with
  | error r => rfl
  | ok p =>
    simp only [hf]

/-- Neither does making an object. -/
theorem createNode_sessions (m : Memory) (sessions : Sessions) (p : Path) (kind : Kind) :
    createNode { m with sessions := sessions } p kind =
      ((m.createNode p kind).1, { (m.createNode p kind).2 with sessions := sessions }) := by
  have admitted : admits { m with sessions := sessions } p = m.admits p := rfl
  unfold createNode
  rw [admitted]
  cases m.admits p with
  | error failure => rfl
  | ok _ =>
    simp only [insert]
    cases p.parent? <;> rfl

theorem create_twins (s s' : Session) (text : String) (kind : Kind) :
    Call.Twins (Within s s') (backend.create s text kind) (backend.create s' text kind) := by
  refine within_twins (fun m sessions => ?_) s s'
  cases Path.ofText text with
  | error r => rfl
  | ok p => exact createNode_sessions m sessions p kind

end InodeGateway.Memory
