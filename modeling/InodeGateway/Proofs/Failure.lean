import InodeGateway.Failure

/-!
# The faults of failures

A failure tells one fault and keeps those that caused it.  Where its faults come from says who is to
blame for it.

## Main definitions

* `Failure.faults` — the fault that is reported and all that caused it
* `Failure.IsOwn` — a failure that no call has thrown any part of
* `Failure.LateOnly` — where the faults about released sessions come from
-/

namespace InodeGateway

/-- The faults of a failure: the one that is reported and all that caused it. -/
def Failure.faults (f : Failure) : List Fault := f.fault :: f.causes

/-- A fault in the gateway's terms. -/
def Fault.IsGateways : Fault → Prop
  | .gateway _ _ _ => True
  | _ => False

/-- All that a failure tells is in the gateway's terms. -/
def Failure.IsOwn (f : Failure) : Prop := ∀ fault ∈ f.faults, fault.IsGateways

/-- A fault that tells of a session released before. -/
def Fault.IsLate : Fault → Prop
  | .backend reason message _ => reason = .io ∧ message = "Session already released"
  | _ => False

/-- What the failure tells of sessions released before comes from these sources. -/
def Failure.LateOnly (sources : Fault → Prop) (f : Failure) : Prop :=
  ∀ fault ∈ f.faults, fault.IsLate → sources fault

namespace Failure

variable {f : Failure} {sources sources' : Fault → Prop}

theorem code?_of_fault {code : Code} {message : String} {details : Option (List (String × Json))}
    (h : f.fault = .gateway code message details) : f.code? = some code := by
  rw [code?, h]

/-- A failure of a class is one in the gateway's terms. -/
theorem exists_fault_of_code? {code : Code} (h : f.code? = some code) :
    ∃ message details, f.fault = .gateway code message details := by
  unfold code? at h
  split at h
  · next heq =>
    cases h
    exact ⟨_, _, heq⟩
  · cases h

/-- Missing is what the backend said it does not know. -/
theorem isMissing_iff {f : Failure} :
    f.isMissing ↔ ∃ message path, f.fault = .backend .notFound message path := by
  rcases f with ⟨fault, causes⟩
  cases fault with
  | backend reason message path => cases reason <;> simp [isMissing]
  | _ => simp [isMissing]

theorem faults_because (fault : Fault) (f : Failure) :
    (because fault f).faults = fault :: f.faults := rfl

theorem IsOwn.because (hf : f.IsOwn) (code : Code) (message : String)
    (details : Option (List (String × Json))) :
    (because (.gateway code message details) f).IsOwn := by
  rw [IsOwn, faults_because]
  exact List.forall_mem_cons.mpr ⟨trivial, hf⟩

theorem LateOnly.mono (hf : f.LateOnly sources) (h : ∀ fault, sources fault → sources' fault) :
    f.LateOnly sources' :=
  fun fault hfault hlate => h fault (hf fault hfault hlate)

/-- What is in the gateway's terms tells nothing of sessions. -/
theorem IsOwn.lateOnly (hf : f.IsOwn) : f.LateOnly sources := by
  intro fault hfault hlate
  cases fault with
  | backend reason message path => exact (hf _ hfault).elim
  | _ => exact hlate.elim

/-- A fault that tells nothing of sessions, by itself. -/
theorem lateOnly_single {fault : Fault} (h : ¬ fault.IsLate) :
    LateOnly sources ⟨fault, []⟩ :=
  List.forall_mem_singleton.mpr fun hlate => absurd hlate h

/-- A fault that tells nothing of sessions may be put before a failure. -/
theorem LateOnly.because (hf : f.LateOnly sources) {fault : Fault} (h : ¬ fault.IsLate) :
    (because fault f).LateOnly sources := by
  rw [LateOnly, faults_because]
  exact List.forall_mem_cons.mpr ⟨fun hlate => absurd hlate h, hf⟩

end Failure

theorem Refusal.isOwn_failure (r : Refusal) : r.failure.IsOwn := by
  rw [Failure.IsOwn, show r.failure.faults = [.gateway r.code r.message r.details] from rfl]
  exact List.forall_mem_singleton.mpr trivial

end InodeGateway
