import InodeGateway.Proofs.Gateway.Exchanges
import InodeGateway.Proofs.Gateway.Stages
import InodeGateway.Proofs.Gateway.Translation
import InodeGateway.Proofs.World.Journal

/-!
# How operations end

An operation that fails is noted once, as the last thing that it writes into the journal, and its
outcome is told to the observer once.  What it fails with is in the gateway's terms: either a
refusal of its own, or what becomes of the one failure that ended its work.

## Main definitions

* `Journal.Record.Incidental`, `Journal.Record.Closes` — the records of an operation
* `Concluded` — what an operation leaves in the journal and with the observer
* `Request.Translates` — what an operation makes of a failure that ended its work
* `Gateway.causes` — the failures that ended the work of an operation

## Main statements

* `Gateway.perform_concludes` — every operation is told to the observer once, and noted once if it
  fails
* `Gateway.perform_translates` — nothing is swallowed, and nothing is put in other terms twice
-/

namespace InodeGateway

open Journal

/-- The operation that a request asks for. -/
def Request.operation : Request → Operation
  | .getAttributes _ => .getAttributes
  | .checkAccess _ _ => .checkAccess
  | .create _ _ _ _ _ => .create
  | .list _ => .list
  | .lookup _ _ => .lookup
  | .parentOf _ => .parentOf
  | .statistics => .statistics
  | .commit _ => .commit
  | .unoffered what => what.operation

/-- The level at which a failed operation is noted: fatal if the table is broken, an error if the
storage failed, a detail otherwise. -/
def Code.severity : Code → Level
  | .internalInconsistency => .fatal
  | .ioFailure => .error
  | _ => .debug

/-- A record of something that happened during an operation: it is no complaint, and it names no
operation. -/
def Journal.Record.Incidental (record : Record) : Prop :=
  record.level ≠ .error ∧ record.level ≠ .fatal ∧ ∀ field ∈ record.fields, field.1 ≠ "operation"

/-- The record of an operation that failed with `e`.  One of weight shows the failure itself, any
other one its class and its message. -/
structure Journal.Record.Closes (operation : Operation) (code : Code) (e : Failure)
    (record : Record) : Prop where
  level : record.level = code.severity
  operation : ("operation", (operation.text : Field)) ∈ record.fields
  shown : ("err", (e : Field)) ∈ record.fields ∨
    (code.severity = .debug ∧ record.message = e.message ∧
      ("code", (code.text : Field)) ∈ record.fields)

section Concluded

variable {σ α β : Type}

/-- What an operation leaves in the journal and with the observer: what happened meanwhile, then the
record of its failure, if it failed; and its outcome.  Whatever failed is in the gateway's terms. -/
def Concluded (operation : Operation) (w after : World σ) (outcome : Except Failure α) : Prop :=
  ∃ incidental : List Record, (∀ record ∈ incidental, record.Incidental) ∧
    match outcome with
    | .ok _ => after.journal = w.journal ++ incidental ∧
        after.observed = w.observed ++ [(operation, .ok)]
    | .error e => ∃ code message details record, e.fault = .gateway code message details ∧
        record.Closes operation code e ∧ after.journal = w.journal ++ incidental ++ [record] ∧
        after.observed = w.observed ++ [(operation, .failed code)]

/-- The action concludes as the operation does, wherever it begins. -/
def Concludes (operation : Operation) (a : Act σ α) : Prop :=
  ∀ w, Concluded operation w (a.answer w).2 (a.answer w).1

theorem Concludes.map {operation : Operation} {a : Act σ α} (h : Concludes operation a)
    (f : α → β) : Concludes operation (f <$> a) := by
  intro w
  have concluded := h w
  rw [Call.answer_map]
  rcases heq : (a.answer w).1 with e | x <;> rw [heq] at concluded <;> exact concluded

end Concluded

namespace Gateway

variable {σ α : Type}

theorem closes_closingRecord (operation : Operation) (context : Fields) {e : Failure} {code : Code}
    (he : e.code? = some code) : (closingRecord operation context e).Closes operation code e := by
  have counted : e.codeOf = code := by rw [Failure.codeOf, he, Option.getD_some]
  unfold closingRecord
  rw [counted]
  cases code <;> refine ⟨rfl, by simp, ?_⟩
  case internalInconsistency => exact .inl (List.mem_cons_self ..)
  case ioFailure => exact .inl (List.mem_cons_self ..)
  all_goals exact .inr ⟨rfl, rfl, List.mem_cons_self ..⟩

/-- An operation concludes, whatever is done in it, if what it notes meanwhile is incidental. -/
theorem run_concludes {operation : Operation} {context : Fields} {body : Act σ α}
    (hbody : body.Writes Record.Incidental) : Concludes operation (run operation context body) := by
  intro w
  obtain ⟨⟨incidental, hjournal, hincidental⟩, hobserved⟩ := hbody w
  rw [run, Call.answer_of]
  rcases heq : body.answer w with ⟨f | x, after⟩ <;> rw [heq] at hjournal hobserved
  · obtain ⟨code, message, details, hfault⟩ := (restate_translated f).fault_eq
    have hcode := Failure.code?_of_fault hfault
    refine ⟨incidental, hincidental, code, message, details,
      closingRecord operation context (restate f), hfault,
      closes_closingRecord operation context hcode, ?_, ?_⟩
    · rw [← hjournal]
      rfl
    · rw [← hobserved, show code = (restate f).codeOf by rw [Failure.codeOf, hcode]; rfl]
      rfl
  · exact ⟨incidental, hincidental, hjournal, congrArg (· ++ _) hobserved⟩

section Writes

open Act (Writes)

/-- A record below the level of complaints, with fields of other names. -/
theorem note_incidental {level : Level} {message : String} {fields : Fields}
    (hlevel : level ≠ .error ∧ level ≠ .fatal)
    (hfields : "operation" ∉ fields.map Prod.fst) :
    Writes Record.Incidental (Act.note level message fields : Act σ Unit) :=
  .note ⟨hlevel.1, hlevel.2, fun _ hfield heq => hfields (heq ▸ List.mem_map_of_mem hfield)⟩

variable (g : Gateway σ)

theorem session_incidental {body : Session → Act σ α}
    (hbody : ∀ s, Writes Record.Incidental (body s)) :
    Writes Record.Incidental (Act.withSession g.backend body) :=
  .withSession hbody fun _ => ⟨nofun, nofun, by simp⟩

theorem parentHandle_incidental (p : Path) : Writes Record.Incidental (g.parentHandle p) := by
  unfold Gateway.parentHandle
  split
  · exact .pure _
  · cases p.parent? with
    | none => exact .pure _
    | some q =>
      simp only
      split
      · exact .explain (.table _)
      · exact .pure _

theorem ofMetadata_incidental (h : Handle) (m : Metadata) :
    Writes Record.Incidental (Attributes.ofMetadata g.identities g.permissions h m) := by
  have asked : Writes Record.Incidental (Attributes.askUserId g.identities m) := by
    refine .bind (.explain (.call _)) fun text => ?_
    cases text with
    | none => exact .fail _
    | some text => exact .check _
  refine .bind asked fun _ => .bind (note_incidental (by decide) ?_) fun _ => .pure _
  simp

theorem probe_incidental (s : Session) (path : String) (mask : Num) :
    Writes Record.Incidental (Access.probe g.backend s path mask) := by
  have asked : ∀ right, Writes Record.Incidental (Access.ask g.backend s path mask right) := by
    intro right
    unfold Access.ask
    split
    · exact .call _
    · exact .pure _
  have noted : ∀ bits : Nat, Writes Record.Incidental (do
      Act.note .debug Access.probedMessage
        [("path", path), ("requested", mask), ("granted", bits)]
      pure bits : Act σ Nat) :=
    fun _ => .bind (note_incidental (by decide) (by simp)) fun _ => .pure _
  refine .bind (asked .execute) fun _ => .bind (asked .write) fun write => ?_
  cases write with
  | true => exact .bind (.pure _) fun _ => noted _
  | false => exact .bind (asked .read) fun _ => noted _

theorem entries_incidental (s : Session) (children : List String) :
    Writes Record.Incidental (g.entries s children) := by
  induction children with
  | nil => exact .pure _
  | cons child rest ih =>
    refine .bind (.orMissing (.map (.call _))) fun described => ?_
    cases described with
    | none => exact .bind (note_incidental (by decide) (by simp)) fun _ => ih
    | some m =>
      refine .bind (.explain (.table _)) fun h => .bind (.check _) fun name => ?_
      exact .bind (g.ofMetadata_incidental h m) fun _ => .bind ih fun _ => .pure _

theorem resolveAll_incidental (handles : List Handle) :
    Writes Record.Incidental (resolveAll handles : Act σ Unit) := by
  induction handles with
  | nil => exact .pure _
  | cons h rest ih => exact .bind (.look _) fun _ => ih

/-- Every operation is told to the observer once; one that fails is noted once, at the end. -/
theorem perform_concludes (r : Request) : Concludes r.operation (g.perform r) := by
  cases r with
  | getAttributes h =>
    refine .map (run_concludes (.bind (.look _) fun p => g.session_incidental fun s => ?_)) _
    exact .bind (.call _) fun m => g.ofMetadata_incidental h m
  | checkAccess h mask =>
    refine .map (run_concludes (.bind (.check _) fun _ => .bind (.look _) fun p => ?_)) _
    exact .explain (g.session_incidental fun s => g.probe_incidental s _ _)
  | create parent name kind owner mode =>
    refine .map (run_concludes (.bind (.check _) fun wanted => .bind (.look _) fun p => ?_)) _
    refine .bind (note_incidental (by decide) (by simp)) fun _ => ?_
    refine .bind (g.session_incidental fun s => .call _) fun _ => ?_
    refine .bind (.explain (.table _)) fun h => ?_
    refine .bind (note_incidental (by decide) (by simp)) fun _ => ?_
    exact .bind (note_incidental (by decide) (by simp)) fun _ => .pure _
  | list h =>
    refine .map (run_concludes (.bind (.look _) fun p => g.session_incidental fun s => ?_)) _
    exact .bind (.call _) fun children => g.entries_incidental s children
  | lookup parent name =>
    refine .map (run_concludes (.bind (.look _) fun p => ?_)) _
    split
    · exact .pure _
    · split
      · exact g.parentHandle_incidental p
      · refine .bind (.check _) fun n => ?_
        exact .bind (g.session_incidental fun s => .call _) fun _ => .explain (.table _)
  | parentOf h =>
    exact .map (run_concludes (.bind (.look _) fun p => g.parentHandle_incidental p)) _
  | statistics =>
    refine .map (run_concludes (.bind (g.session_incidental fun s => ?_) fun _ => ?_)) _
    · unfold Gateway.space
      split
      · exact .call _
      · exact .pure _
    · exact .bind (.look _) fun _ => .pure _
  | commit h => exact .map (run_concludes (.bind (.look _) fun _ => .pure _)) _
  | unoffered what =>
    exact .map (run_concludes (.bind (resolveAll_incidental what.handles) fun _ => .fail _)) _

end Writes

end Gateway

/-- What an operation makes of a failure that ended its work.  The check of access has failed,
whatever the failure was; any other operation translates it. -/
def Request.Translates (t : Inodes) (r : Request) (x e : Failure) : Prop :=
  match r with
  | .checkAccess h _ => ∃ p, Gateway.pathFor t h = .ok p ∧
      e = ⟨.gateway .ioFailure "Access check failed" (some [("path", p.toText)]),
        x.fault :: x.causes⟩
  | _ => x.Translated e

/-- The failure that an exchange ends the work of an operation with, if it does.  A child that is
gone does not end the work of an operation that spares it, and neither does a release that failed.
What the registry of identities throws is put in the gateway's terms at once. -/
def Exchange.cause? (spares : Bool) : Exchange → Option Failure
  | .notOpened x => some x
  | .worked _ .stat (some x) =>
    match spares, x.fault with
    | true, .backend .notFound _ _ => none
    | _, _ => some x
  | .worked _ _ (some x) => some x
  | .asked owner (some x) =>
    some ⟨.gateway .ioFailure "Identity lookup failed" (some [("owner", owner)]),
      x.fault :: x.causes⟩
  | _ => none

namespace Exchange

variable {spares : Bool}

/-- The failures that ended the work, oldest first. -/
def causes (spares : Bool) (exchanges : List Exchange) : List Failure :=
  exchanges.filterMap (cause? spares)

/-- As long as nothing has ended the work, the next exchange does so or does not. -/
theorem causes_concat {exchanges : List Exchange} (h : causes spares exchanges = [])
    (next : Exchange) : causes spares (exchanges ++ [next]) = (next.cause? spares).toList := by
  unfold causes at h ⊢
  rw [List.filterMap_append, h, List.nil_append]
  cases heq : next.cause? spares <;> simp [heq]

/-- A child that is gone is spared, and no other failure to describe one. -/
theorem cause?_stat (s : Session) (x : Failure) : (worked s .stat (some x)).cause? spares =
    if spares ∧ x.isMissing then none else some x := by
  rcases x with ⟨fault, causes⟩
  cases spares with
  | false => rfl
  | true =>
    cases fault with
    | backend reason message path => cases reason <;> rfl
    | _ => rfl

theorem cause?_worked {s : Session} {target : Target} (htarget : target ≠ .stat)
    (thrown : Option Failure) : (worked s target thrown).cause? spares = thrown := by
  cases thrown with
  | none => cases target <;> rfl
  | some x => cases target <;> first | rfl | exact absurd rfl htarget

end Exchange

namespace Gateway

variable {σ α : Type}

/-- The failures that ended the work of an operation, oldest first. -/
def causes (g : Gateway σ) (w : World σ) (r : Request) : List Failure :=
  Exchange.causes r.spares (g.exchanges w r)

end Gateway

namespace Request.Reports

variable {t : Inodes} {r : Request} {x f : Failure}

/-- What an operation reports of a failure in its session is the translation of it. -/
theorem translates (h : r.Reports t x f) : r.Translates t x (Gateway.restate f) := by
  cases r with
  | checkAccess handle mask =>
    obtain ⟨p, hp, rfl⟩ := h
    exact ⟨p, hp, rfl⟩
  | _ =>
    obtain rfl : f = x := h
    exact Gateway.restate_translated f

theorem isOwn (h : r.Reports t x f) (hx : x.IsOwn) : f.IsOwn := by
  cases r with
  | checkAccess handle mask =>
    obtain ⟨p, -, rfl⟩ := h
    exact hx.because _ _ _
  | _ => exact (show f = x from h) ▸ hx

end Request.Reports

namespace Gateway

variable {σ : Type}

/-- What ended the work so far: nothing, up to the failure that does. -/
def causeStages (σ : Type) (spares : Bool) : Stages (σ × List Exchange) where
  idle b := Exchange.causes spares b.2 = []
  busy _ b := Exchange.causes spares b.2 = []
  failing _ f b := Exchange.causes spares b.2 = [f] ∨ (Exchange.causes spares b.2 = [] ∧ f.IsOwn)
  done b := Exchange.causes spares b.2 = []
  failed f b := Exchange.causes spares b.2 = [f] ∨ (Exchange.causes spares b.2 = [] ∧ f.IsOwn)

/-- A failure ends the work, and so it is the only one. -/
theorem staged_causes (g : Gateway σ) (spares : Bool) :
    Staged g.followed (causeStages σ spares) spares where
  openSession b hb :=
    .followed _ ⟨fun s _ => Exchange.causes_concat hb _,
      fun f _ => .inl (Exchange.causes_concat hb _)⟩
  work hc hb := by
    obtain ⟨c, target, -, htarget, rfl⟩ := hc.of_followed
    refine .followed _ ⟨fun x _ => ?_, fun f _ => .inl ?_⟩
    · exact (Exchange.causes_concat hb _).trans (by rw [Exchange.cause?_worked htarget]; rfl)
    · exact (Exchange.causes_concat hb _).trans (by rw [Exchange.cause?_worked htarget]; rfl)
  stat {s b} hb path := by
    rw [followed_stat]
    refine .followed _ ⟨fun x _ => Exchange.causes_concat hb _, fun f _ => ?_⟩
    have after := Exchange.causes_concat hb (.worked s .stat (some f))
    rw [Exchange.cause?_stat] at after
    by_cases spared : spares ∧ f.isMissing
    · simp only [if_pos spared] at after ⊢
      exact after
    · simp only [if_neg spared] at after ⊢
      exact .inl after
  identity {s b} hb owner := by
    rw [followed_resolve]
    exact .followed _ ⟨fun x _ => Exchange.causes_concat hb _,
      fun f _ => .inl (Exchange.causes_concat hb _)⟩
  refuse hb _ hf := .inr ⟨hb, hf⟩
  release hb := Exchange.causes_concat hb _
  fail {s f b} hb := by
    have after : Exchange.causes spares ((g.followed.backend.release s).answer b).2.2 =
        Exchange.causes spares b.2 := by
      show Exchange.causes spares (b.2 ++ [.released s _]) = _
      rw [Exchange.causes, List.filterMap_append]
      exact List.append_nil _
    simpa only [causeStages, after] using hb

/-- An operation that answers was ended by nothing.  One that fails was ended by one failure, which
it reports in the gateway's terms, or by nothing but a refusal of its own.  Either way it is noted
and told to the observer once. -/
theorem perform_translates (g : Gateway σ) (w : World σ) (r : Request) :
    Concluded r.operation w ((g.perform r).answer w).2 ((g.perform r).answer w).1 ∧
      match ((g.perform r).answer w).1 with
      | .ok _ => g.causes w r = []
      | .error e => (g.causes w r = [] ∧ e.IsOwn) ∨
          ∃ x, g.causes w r = [x] ∧ r.Translates w.inodes x e := by
  refine ⟨g.perform_concludes r w, ?_⟩
  have ends := (g.staged_causes r.spares).perform_triple r w.inodes w.following ⟨rfl, rfl⟩
  rw [← (g.perform_followed w r).1]
  unfold causes exchanges
  rcases heq : (g.followed.perform r).answer w.following with ⟨e | x, after⟩ <;> rw [heq] at ends
  · simp only
    obtain ⟨f, rfl, ⟨hf, hcauses⟩ | ⟨x, hfailed, hreports⟩⟩ := ends
    · rw [restate_of_isOwn hf]
      exact .inl ⟨hcauses.elim id id, hf⟩
    · rcases hfailed with hcauses | ⟨hcauses, hx⟩
      · exact .inr ⟨x, hcauses, hreports.translates⟩
      · have hf := hreports.isOwn hx
        rw [restate_of_isOwn hf]
        exact .inl ⟨hcauses, hf⟩
  · exact ends.elim id id

end Gateway

end InodeGateway
