import InodeGateway.Backend.Injected
import InodeGateway.Identity
import InodeGateway.Proofs.Backend.Accounting

/-!
# Backends that fail at any time

Any call of a backend may be made to fail, each one for itself: all but the release fail before the
backend is asked, and the release fails afterwards.  A registry of identities with a state of its
own stands beside the backend.

## Main definitions

* `Pattern` — which calls fail
* `Site` — the states of a backend and of a registry, and the number of calls so far
* `Backend.faulty` — the same backend, with failures as the pattern wants them

## Main statements

* `Backend.Accounts.faulty` — a backend that fails at any time still keeps account of its sessions
-/

namespace InodeGateway

/-- Which calls fail: for each call, counted from zero, with what is asked and the path that it is
asked about, the failure that is wanted, if any. -/
abbrev Pattern := Nat → Target → Option String → Option Failure

/-- The faults of the failures that are wanted. -/
def Pattern.Throws (pattern : Pattern) (fault : Fault) : Prop :=
  ∃ n target path f, pattern n target path = some f ∧ fault ∈ f.faults

/-- The state of a backend, the state of a registry of identities, and the number of calls of the
backend so far. -/
structure Site (σ ι : Type) where
  storage : σ
  registry : ι
  calls : Nat := 0

namespace Site

variable {σ ι α : Type}

/-- One more call was made. -/
def counted (s : Site σ ι) : Site σ ι := { s with calls := s.calls + 1 }

def storing (c : Call σ α) : Call (Site σ ι) α :=
  c.onPart Site.storage fun storage s => { s with storage := storage }

def asking (c : Call ι α) : Call (Site σ ι) α :=
  c.onPart Site.registry fun registry s => { s with registry := registry }

/-- A call that fails instead of being made, if a failure is wanted. -/
def before (pattern : Pattern) (target : Target) (path : Option String) (c : Call σ α) :
    Call (Site σ ι) α := .of fun s =>
  match pattern s.calls target path with
  | some failure => (.error failure, s.counted)
  | none => (storing c).answer s.counted

/-- A call that is made and fails afterwards, if a failure is wanted and it did not fail itself. -/
def afterwards (pattern : Pattern) (target : Target) (c : Call σ Unit) : Call (Site σ ι) Unit :=
  .of fun s =>
    match (storing c).answer s.counted with
    | (.error failure, after) => (.error failure, after)
    | (.ok (), after) =>
      match pattern s.calls target none with
      | some failure => (.error failure, after)
      | none => (.ok (), after)

end Site

variable {σ ι α : Type}

/-- The same backend, with failures as the pattern wants them. -/
def Backend.faulty (pattern : Pattern) (b : Backend σ) : Backend (Site σ ι) where
  kind := b.kind
  openSession := Site.before pattern .openSession none b.openSession
  stat s path := Site.before pattern .stat (some path) (b.stat s path)
  permits s right path := Site.before pattern (.permits right) (some path) (b.permits s right path)
  create s path kind := Site.before pattern .create (some path) (b.create s path kind)
  list s path := Site.before pattern .list (some path) (b.list s path)
  capacity := b.capacity.map fun space s => Site.before pattern .capacity none (space s)
  release s := Site.afterwards pattern .release (b.release s)

/-- The same registry, beside a backend. -/
def Identity.Registry.beside (identities : Identity.Registry ι) : Identity.Registry (Site σ ι) :=
  ⟨fun owner => Site.asking (identities.resolve owner)⟩

/-- The account of the backend. -/
def Site.account (account : σ → Sessions) (s : Site σ ι) : Sessions := account s.storage

variable {account : σ → Sessions} {pattern : Pattern} {target : Target} {path : Option String}

theorem Pattern.lateOnly_throws {n : Nat} {f : Failure} (h : pattern n target path = some f) :
    f.LateOnly pattern.Throws :=
  fun _ hfault _ => ⟨n, target, path, f, h, hfault⟩

/-- Where nothing tells of sessions released before, no source is needed. -/
theorem Failure.LateOnly.of_never {f : Failure} {sources : Fault → Prop}
    (h : f.LateOnly fun _ => False) : f.LateOnly sources :=
  h.mono fun _ hfalse => hfalse.elim

/-- A call that fails afterwards was made all the same. -/
theorem Site.storage_afterwards (c : Call σ Unit) (s : Site σ ι) :
    ((afterwards pattern target c).answer s).2.storage = (c.answer s.storage).2 := by
  rw [afterwards, Call.answer_of]
  have made : ((storing c).answer s.counted).2.storage = (c.answer s.storage).2 := rfl
  rcases heq : (storing c).answer s.counted with ⟨f | ⟨⟩, after⟩ <;> rw [heq] at made
  · exact made
  · simp only
    cases pattern s.calls target none <;> exact made

theorem Call.Accounted.before {s : Session} {c : Call σ α}
    (h : c.Accounted account (fun _ => False) s) :
    (Site.before pattern target path c : Call (Site σ ι) α).Accounted (Site.account account)
      pattern.Throws s := by
  intro b
  rw [Site.before, answer_of]
  cases hwanted : pattern b.calls target path with
  | some failure =>
    refine ⟨rfl, fun _ f hf => ?_⟩
    obtain rfl : failure = f := Except.error.inj hf
    exact Pattern.lateOnly_throws hwanted
  | none => exact ⟨(h b.storage).1, fun hopen f hf => ((h b.storage).2 hopen f hf).of_never⟩

/-- A backend that fails at any time still keeps account of its sessions. -/
theorem Backend.Accounts.faulty {b : Backend σ} (A : b.Accounts account fun _ => False)
    (pattern : Pattern) : (b.faulty pattern : Backend (Site σ ι)).Accounts (Site.account account)
      pattern.Throws where
  openSession x := by
    show (Site.before pattern .openSession none b.openSession).Leads x _ _
    unfold Call.Leads
    rw [Site.before, Call.answer_of]
    cases hwanted : pattern x.calls .openSession none with
    | some failure =>
      refine ⟨nofun, fun f hf => ?_⟩
      obtain rfl : failure = f := Except.error.inj hf
      exact ⟨Pattern.lateOnly_throws hwanted, rfl⟩
    | none =>
      obtain ⟨opens, fails⟩ := A.openSession x.storage
      exact ⟨opens, fun f hf => ⟨(fails f hf).1.of_never, (fails f hf).2⟩⟩
  stat s path := (A.stat s path).before
  permits s right path := (A.permits s right path).before
  create s path kind := (A.create s path kind).before
  list s path := (A.list s path).before
  capacity space hspace s := by
    obtain ⟨inner, hinner, rfl⟩ := Option.map_eq_some_iff.mp hspace
    exact (A.capacity inner hinner s).before
  release s x := by
    refine Eq.trans ?_ (A.release s x.storage)
    exact congrArg account (Site.storage_afterwards _ _)

end InodeGateway
