import InodeGateway.Gateway
import InodeGateway.Proofs.Failure

/-!
# Failures in the gateway's terms

What clients are told of a failure that some call has thrown.  One in the gateway's terms is passed
on; an error of the backend gets the class of its reason; anything else is a failure of the storage.

## Main definitions

* `Reason.Seen` — the class of failure that clients see for a reason of the backend
* `Failure.PathDetails` — the details of an error of the backend
* `Failure.Translated` — what becomes of a failure that was thrown

## Main statements

* `Gateway.restate_translated` — every failure is translated so
-/

namespace InodeGateway

/-- The class of failure that clients see for each reason of the backend. -/
inductive Reason.Seen : Reason → Code → Prop
  | notFound : Seen .notFound .notFound
  | alreadyExists : Seen .alreadyExists .alreadyExists
  | permissionDenied : Seen .permissionDenied .permissionDenied
  | io : Seen .io .ioFailure

theorem Reason.seen_code (reason : Reason) : reason.Seen reason.code := by
  cases reason <;> constructor

namespace Failure

/-- The details of an error of the backend: its path, unless it has none or an empty one. -/
inductive PathDetails : Option String → Option (List (String × Json)) → Prop
  | absent : PathDetails none none
  | empty : PathDetails (some "") none
  | path {path : String} (h : path ≠ "") : PathDetails (some path) (some [("path", .str path)])

theorem pathDetails_told (path : Option String) : PathDetails path (Gateway.pathDetails path) := by
  cases path with
  | none => exact .absent
  | some path =>
    by_cases h : path = ""
    · subst h
      exact .empty
    · rw [Gateway.pathDetails, if_neg (mt String.isEmpty_iff.mp h)]
      exact .path h

/-- What becomes of the failure `x` that was thrown, with one rule for each kind of fault.  What is
put in other terms keeps `x` as its cause. -/
inductive Translated (x : Failure) : Failure → Prop
  | same {code : Code} {message : String} {details : Option (List (String × Json))}
      (h : x.fault = .gateway code message details) : Translated x x
  | backend {reason : Reason} {message : String} {path : Option String} {code : Code}
      {details : Option (List (String × Json))} (h : x.fault = .backend reason message path)
      (seen : reason.Seen code) (told : PathDetails path details) :
      Translated x ⟨.gateway code message details, x.fault :: x.causes⟩
  | exception {kind message : String} (h : x.fault = .exception kind message) :
      Translated x ⟨.gateway .ioFailure ("Backend failure: " ++ message) none,
        x.fault :: x.causes⟩
  | text {message : String} (h : x.fault = .text message) :
      Translated x ⟨.gateway .ioFailure ("Backend failure: " ++ message) none,
        x.fault :: x.causes⟩
  | issues {list : List Issue} (h : x.fault = .issues list) :
      Translated x ⟨.gateway .ioFailure ("Backend failure: " ++ toString list.length) none,
        x.fault :: x.causes⟩

/-- A failure in the gateway's terms is passed on. -/
theorem Translated.eq_of_fault {x e : Failure} {code : Code} {message : String}
    {details : Option (List (String × Json))} (h : x.Translated e)
    (hx : x.fault = .gateway code message details) : e = x := by
  cases h with
  | same => rfl
  | backend h => cases hx.symm.trans h
  | exception h => cases hx.symm.trans h
  | text h => cases hx.symm.trans h
  | issues h => cases hx.symm.trans h

/-- What was translated is in the gateway's terms. -/
theorem Translated.fault_eq {x e : Failure} (h : x.Translated e) :
    ∃ code message details, e.fault = .gateway code message details := by
  cases h with
  | same h => exact ⟨_, _, _, h⟩
  | _ => exact ⟨_, _, _, rfl⟩

end Failure

namespace Gateway

/-- Every failure is translated. -/
theorem restate_translated (x : Failure) : x.Translated (restate x) := by
  rcases x with ⟨fault, causes⟩
  cases fault with
  | gateway code message details => exact .same rfl
  | backend reason message path =>
    exact .backend rfl reason.seen_code (Failure.pathDetails_told path)
  | exception kind message => exact .exception rfl
  | text message => exact .text rfl
  | issues list => exact .issues rfl

theorem code?_restate_ne_none (f : Failure) : (restate f).code? ≠ none := by
  obtain ⟨code, message, details, h⟩ := (restate_translated f).fault_eq
  rw [Failure.code?_of_fault h]
  exact Option.some_ne_none code

/-- A failure in the gateway's terms is not restated. -/
theorem restate_of_code {f : Failure} {code : Code} (h : f.code? = some code) : restate f = f := by
  obtain ⟨message, details, hfault⟩ := Failure.exists_fault_of_code? h
  rw [restate, hfault]

/-- A failure of the gateway's own is reported as it is. -/
theorem restate_of_isOwn {f : Failure} (hf : f.IsOwn) : restate f = f := by
  have own := hf f.fault List.mem_cons_self
  cases hfault : f.fault with
  | gateway code message details => rw [restate, hfault]
  | _ =>
    rw [hfault] at own
    exact own.elim

end Gateway

end InodeGateway
