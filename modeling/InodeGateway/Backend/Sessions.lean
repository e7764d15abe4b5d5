import InodeGateway.Backend

/-!
# The sessions of a backend

Which sessions were opened, which of them were released, and how many are in use.

## Main definitions

* `Sessions` — the released flags of all sessions, and the number in use
* `Sessions.acquire`, `Sessions.release` — opening and releasing
* `Sessions.ensureOpen` — the refusal to work for a released session
-/

namespace InodeGateway

structure Sessions where
  /-- Whether each session was released, in order of opening. -/
  released : List Bool := []
  /-- The number of sessions in use. -/
  active : Int := 0
  deriving DecidableEq, Repr, Inhabited

namespace Sessions

/-- How many sessions were opened so far. -/
def opened (p : Sessions) : Nat := p.released.length

def acquire (p : Sessions) : Session × Sessions :=
  (p.opened, ⟨p.released ++ [false], p.active + 1⟩)

def isReleased (p : Sessions) (s : Session) : Bool := p.released[s]?.getD false

def release (p : Sessions) (s : Session) : Sessions := ⟨p.released.set s true, p.active - 1⟩

def alreadyReleased (path : Option String) : Failure :=
  .backend .io "Session already released" path

/-- Refuses to work for a released session. -/
def ensureOpen (p : Sessions) (s : Session) (path : Option String) : Except Failure Unit :=
  if p.isReleased s then .error (alreadyReleased path) else .ok ()

@[simp] theorem opened_acquire (p : Sessions) : p.acquire.2.opened = p.opened + 1 := by
  simp [acquire, opened]

@[simp] theorem isReleased_acquire (p : Sessions) : p.acquire.2.isReleased p.acquire.1 = false := by
  simp [acquire, opened, isReleased]

@[simp] theorem opened_release (p : Sessions) (s : Session) :
    (p.release s).opened = p.opened := by
  simp [release, opened]

/-- A release is remembered of its session and of no other. -/
theorem isReleased_release (p : Sessions) (s t : Session) :
    (p.release s).isReleased t = if s = t ∧ s < p.opened then true else p.isReleased t := by
  by_cases h : s = t
  · subst h
    by_cases hs : s < p.opened
    · simp_all [release, isReleased, opened]
    · simp_all [release, isReleased, opened]
  · simp [release, isReleased, h]

end Sessions

end InodeGateway
