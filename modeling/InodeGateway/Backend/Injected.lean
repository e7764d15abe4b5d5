import InodeGateway.Backend

/-!
# Backends with faults

A backend that stands before another one and changes what it answers: calls fail on demand,
listings get further children, and the space is a fixed one or is not told.

## Main definitions

* `Target` — the calls that can be made to fail
* `Injection` — which call fails, where, and with what
* `Alterations` — the changes that hold all the time
* `Backend.injected` — the backend with these changes
-/

namespace InodeGateway

/-- The calls that can be made to fail. -/
inductive Target where
  | openSession
  | stat
  | permits (right : Right)
  | create
  | list
  | capacity
  | release
  deriving DecidableEq, Repr

/-- A failure of a call.  If a path is given, only calls about just this text fail. -/
structure Injection where
  target : Target
  path : Option String
  failure : Failure
  deriving Repr

/-- The changes that hold all the time. -/
structure Alterations where
  /-- Paths that every listing gets at its end. -/
  extraChildren : List String := []
  /-- Whether the backend does not tell its space. -/
  hidesCapacity : Bool := false
  /-- The space that the backend tells. -/
  capacity : Option Capacity := none
  deriving Repr

/-- A backend's state and the failures that are wanted, oldest first. -/
structure Injected (σ : Type) where
  inner : σ
  injections : List Injection := []
  deriving Repr

namespace Injected

variable {σ α : Type}

def meets (target : Target) (path : Option String) (i : Injection) : Bool :=
  i.target = target && (i.path.isNone || i.path == path)

/-- The failure that is wanted of a call: the oldest one that meets it. -/
def wanted? (s : Injected σ) (target : Target) (path : Option String) : Option Failure :=
  (s.injections.find? (meets target path)).map Injection.failure

def lift (c : Call σ α) : Call (Injected σ) α :=
  c.onPart Injected.inner fun inner s => { s with inner := inner }

/-- A call that fails instead of being made, if a failure is wanted. -/
def before (target : Target) (path : Option String) (c : Call (Injected σ) α) :
    Call (Injected σ) α := .of fun s =>
  match s.wanted? target path with
  | some failure => (.error failure, s)
  | none => c.answer s

/-- A call that is made and fails afterwards, if a failure is wanted and it did not fail itself. -/
def afterwards (target : Target) (c : Call (Injected σ) Unit) :
    Call (Injected σ) Unit := .of fun s =>
  match c.answer s with
  | (.error failure, t) => (.error failure, t)
  | (.ok (), t) =>
    match t.wanted? target none with
    | some failure => (.error failure, t)
    | none => (.ok (), t)

end Injected

def Backend.injected {σ : Type} (a : Alterations) (b : Backend σ) : Backend (Injected σ) where
  kind := b.kind
  openSession := Injected.before .openSession none (Injected.lift b.openSession)
  stat s path := Injected.before .stat (some path) (Injected.lift (b.stat s path))
  permits s right path :=
    Injected.before (.permits right) (some path) (Injected.lift (b.permits s right path))
  create s path kind := Injected.before .create (some path) (Injected.lift (b.create s path kind))
  list s path := Injected.before .list (some path) do
    return (← Injected.lift (b.list s path)) ++ a.extraChildren
  capacity :=
    if a.hidesCapacity then none
    else b.capacity.map fun space s =>
      Injected.before .capacity none <|
        match a.capacity with
        | some fixed => pure fixed
        | none => Injected.lift (space s)
  release s := Injected.afterwards .release (Injected.lift (b.release s))

end InodeGateway
