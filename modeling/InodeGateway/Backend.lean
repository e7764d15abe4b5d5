import InodeGateway.Failure
import InodeGateway.Object

/-!
# Storage backends

A backend keeps objects under paths and hands out sessions.  Sessions are scarce: whoever opens one
releases it.  A backend is described by its calls, each a function of the backend's state; nothing
is assumed about what they answer.

## Main definitions

* `Session` — the number of a session
* `Call` — a call that may fail and may change the state of a backend
* `Backend` — the calls of a backend
-/

namespace InodeGateway

/-- The number of a session, counted from zero in order of opening. -/
abbrev Session := Nat

abbrev Call (σ α : Type) := ExceptT Failure (StateM σ) α

namespace Call

variable {σ τ α β : Type}

/-- A call from the function that it is. -/
def of (f : σ → Except Failure α × σ) : Call σ α := ExceptT.mk f

/-- The answer and the state after a call. -/
def answer (c : Call σ α) (s : σ) : Except Failure α × σ := (ExceptT.run c).run s

def read (f : σ → Except Failure α) : Call σ α := .of fun s => (f s, s)

def fail (failure : Failure) : Call σ α := .read fun _ => .error failure

def onPart (get : τ → σ) (set : σ → τ → τ) (c : Call σ α) : Call τ α :=
  .of fun t =>
    let (r, s) := c.answer (get t)
    (r, set s t)

@[simp] theorem answer_of (f : σ → Except Failure α × σ) (s : σ) : (of f).answer s = f s := rfl

@[simp] theorem answer_read (f : σ → Except Failure α) (s : σ) :
    (read f).answer s = (f s, s) := rfl

@[simp] theorem answer_pure (a : α) (s : σ) : (pure a : Call σ α).answer s = (.ok a, s) := rfl

/-- A call followed by another: the second is made in the state that the first leaves, unless the
first fails. -/
theorem answer_bind (c : Call σ α) (f : α → Call σ β) (s : σ) :
    (c >>= f).answer s =
      match c.answer s with
      | (.ok a, t) => (f a).answer t
      | (.error failure, t) => (.error failure, t) := by
  show (ExceptT.run (c >>= f)).run s = _
  rw [ExceptT.run_bind, StateT.run_bind]
  rcases h : (ExceptT.run c).run s with ⟨r, t⟩
  have hc : c.answer s = (r, t) := h
  rw [hc]
  cases r <;> rfl

/-- A function on the answer of a call. -/
theorem answer_map (f : α → β) (c : Call σ α) (s : σ) :
    (f <$> c).answer s = ((c.answer s).1.map f, (c.answer s).2) := by
  rw [map_eq_pure_bind, answer_bind]
  rcases c.answer s with ⟨r, t⟩
  cases r <;> rfl

/-- A call on a part leaves the other parts as they are. -/
@[simp] theorem answer_onPart (get : τ → σ) (set : σ → τ → τ) (c : Call σ α) (t : τ) :
    (c.onPart get set).answer t = ((c.answer (get t)).1, set (c.answer (get t)).2 t) := rfl

@[simp] theorem answer_fail (failure : Failure) (s : σ) :
    (fail failure : Call σ α).answer s = (.error failure, s) := rfl

end Call

/-- The calls of a backend with states in `σ`.  Paths are texts, as callers spell them. -/
structure Backend (σ : Type) where
  kind : String
  openSession : Call σ Session
  /-- Describes the object at a path. -/
  stat : Session → String → Call σ Metadata
  /-- Tells whether a right is granted at a path. -/
  permits : Session → Right → String → Call σ Bool
  /-- Makes an object at a path. -/
  create : Session → String → Kind → Call σ Unit
  /-- The paths of the immediate children of the directory at a path. -/
  list : Session → String → Call σ (List String)
  /-- The space of the backend, if it can tell. -/
  capacity : Option (Session → Call σ Capacity)
  release : Session → Call σ Unit

end InodeGateway
