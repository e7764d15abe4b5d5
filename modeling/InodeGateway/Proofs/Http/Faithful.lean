import InodeGateway.Proofs.Gateway.Reporting
import InodeGateway.Proofs.Handle
import InodeGateway.Proofs.Http.Creation
import InodeGateway.Proofs.Http.Forms
import InodeGateway.Proofs.Http.Replies

/-!
# What replies tell

A request for an object names it by a handle in its path, and may carry a document.  Both are looked
at before the gateway is asked for anything.  Then the gateway is asked for what they say, and the
reply tells how that ended.

## Main definitions

* `Gateway.dialogue`, `Gateway.outcomes` — the requests that serve one, and how they end
* `Http.Route.Asks` — what a route asks the gateway for, given the document
* `Http.Told` — a reply that tells truly what happened

## Main statements

* `Http.Service.serve_tells` — what is not in order is refused untouched; otherwise the reply tells
  truly how the gateway was asked
* `Http.Service.Reached.respond_tells` — the same of requests, whatever happened to the service
  before
-/

namespace InodeGateway

namespace Gateway

variable {σ : Type} {g : Gateway σ} {w : World σ}

/-- The requests that serve one, one after another.  An object that was made is looked at. -/
def dialogue (g : Gateway σ) (w : World σ) (ask : Request) : List Request :=
  match ask, ((g.perform ask).answer w).1 with
  | .create _ _ _ _ _, .ok (.handle made) => [ask, .getAttributes made]
  | _, _ => [ask]

/-- How requests end that are made one after another. -/
def outcomes (g : Gateway σ) (w : World σ) : List Request → List (Except Failure Answer)
  | [] => []
  | r :: rest => ((g.perform r).answer w).1 :: g.outcomes (g.after w r) rest

/-- Whatever fails is reported in the gateway's terms. -/
theorem gateway_of_perform {r : Request} {f : Failure}
    (h : ((g.perform r).answer w).1 = .error f) :
    ∃ code message details, f.fault = .gateway code message details := by
  have concluded := g.perform_concludes r w
  rw [h] at concluded
  obtain ⟨_, -, code, message, details, _, hfault, -⟩ := concluded
  exact ⟨code, message, details, hfault⟩

/-- The handles that are answered are positive. -/
theorem positive_of_perform (dense : g.DenseAt w.inodes) {r : Request} {answer : Answer}
    (h : ((g.perform r).answer w).1 = .ok answer) : ∀ k ∈ answer.handles, 0 < k := by
  have ends := (contract_denseAt g.explains_true).perform_triple r w dense
  rcases heq : (g.perform r).answer w with ⟨f | x, after⟩ <;> rw [heq] at ends h
  · cases h
  · obtain rfl : x = answer := Except.ok.inj h
    intro k hk
    obtain ⟨p, hmem⟩ := ends.2 k hk
    exact ends.1.dense.coherent.positive k (List.mem_map_of_mem hmem)

theorem gateway_of_outcomes {rs : List Request} {f : Failure} (h : .error f ∈ g.outcomes w rs) :
    ∃ code message details, f.fault = .gateway code message details := by
  induction rs generalizing w with
  | nil => cases h
  | cons r rest ih =>
    rcases List.mem_cons.mp h with heq | hrest
    · exact gateway_of_perform heq.symm
    · exact ih hrest

theorem positive_of_outcomes (dense : g.DenseAt w.inodes) {rs : List Request} {answer : Answer}
    (h : .ok answer ∈ g.outcomes w rs) : ∀ k ∈ answer.handles, 0 < k := by
  induction rs generalizing w with
  | nil => cases h
  | cons r rest ih =>
    rcases List.mem_cons.mp h with heq | hrest
    · exact positive_of_perform dense heq.symm
    · exact ih (dense.after r) hrest

section Creating

variable {h : Handle} {name kind : String} {owner : Principal} {mode : Num} {v u : World σ}

/-- If nothing was made, nothing is looked at. -/
theorem dialogue_of_refused {f : Failure}
    (hcreate : (g.create h name kind owner mode).answer w = (.error f, v)) :
    let ask := Request.create h name kind owner mode
    g.outcomes w (g.dialogue w ask) = [.error f] ∧ g.afterAll w (g.dialogue w ask) = v := by
  intro ask
  have performed : (g.perform ask).answer w = (.error f, v) := by
    rw [show g.perform ask = .handle <$> g.create h name kind owner mode from rfl, Call.answer_map,
      hcreate]
    rfl
  have alone : g.dialogue w ask = [ask] := by
    simp only [ask, dialogue]
    rw [performed]
  rw [alone]
  exact ⟨by rw [outcomes, performed]; rfl, congrArg Prod.snd performed⟩

/-- What was made is looked at in the world that its creation left. -/
theorem dialogue_of_made {made : Handle} {looked : Except Failure Attributes}
    (hcreate : (g.create h name kind owner mode).answer w = (.ok made, v))
    (hlook : (g.getAttributes made).answer v = (looked, u)) :
    let ask := Request.create h name kind owner mode
    g.outcomes w (g.dialogue w ask) = [.ok (.handle made), looked.map .attributes] ∧
      g.afterAll w (g.dialogue w ask) = u := by
  intro ask
  have performed : (g.perform ask).answer w = (.ok (.handle made), v) := by
    rw [show g.perform ask = .handle <$> g.create h name kind owner mode from rfl, Call.answer_map,
      hcreate]
    rfl
  have both : g.dialogue w ask = [ask, .getAttributes made] := by
    simp only [ask, dialogue]
    rw [performed]
  have left : g.after w ask = v := congrArg Prod.snd performed
  have read : (g.perform (.getAttributes made)).answer v = (looked.map .attributes, u) := by
    rw [show g.perform (.getAttributes made) = .attributes <$> g.getAttributes made from rfl,
      Call.answer_map, hlook]
  rw [both]
  refine ⟨by rw [outcomes, outcomes, left, performed, read]; rfl, ?_⟩
  show g.after (g.after w ask) _ = u
  rw [left]
  exact congrArg Prod.snd read

end Creating

end Gateway

namespace Http

variable {σ α : Type} {g : Gateway σ} {w : World σ} {ask : InodeGateway.Request}

/-- What a route asks the gateway for: the handle that its path spells, and what its document
says. -/
def Route.Asks (document : Json) (ask : InodeGateway.Request) : Route → Prop
  | .attributes text => ∃ h, Handle.ofText text = .ok h ∧ ask = .getAttributes h
  | .children text => ∃ h, Handle.ofText text = .ok h ∧ ask = .list h
  | .parent text => ∃ h, Handle.ofText text = .ok h ∧ ask = .parentOf h
  | .child text name => ∃ h, Handle.ofText text = .ok h ∧ name ≠ "" ∧ ask = .lookup h name
  | .access text => ∃ h form, Handle.ofText text = .ok h ∧ AccessForm.FilledBy form document ∧
      ask = .checkAccess h form.mask
  | .create text => ∃ h form, Handle.ofText text = .ok h ∧ CreationForm.FilledBy form document ∧
      ask = .create h form.name form.kind.text form.owner form.mode
  | .health | .ready | .readyz | .metrics | .root | .statistics => False

/-- Routes that name an object in their path. -/
def Route.namesObject : Route → Bool
  | .attributes _ | .children _ | .child _ _ | .parent _ | .access _ | .create _ => true
  | .health | .ready | .readyz | .metrics | .root | .statistics => false

/-- A request was served: the gateway was asked for what it asks, and for nothing else, and the
reply tells how that ended. -/
structure Told (g : Gateway σ) (w : World σ) (ask : InodeGateway.Request) (reply : Reply)
    (after : World σ) : Prop where
  world : after = g.afterAll w (g.dialogue w ask)
  succeeds : reply.Succeeds ↔
    ∀ outcome ∈ g.outcomes w (g.dialogue w ask), ∃ answer, outcome = .ok answer
  fails : ∀ f, .error f ∈ g.outcomes w (g.dialogue w ask) →
    ∃ code message details, f.fault = .gateway code message details ∧
      reply.Reports code message details
  /-- Handles are written as they were answered, and whoever writes one that fits 64 bits means
  it. -/
  handles : reply.Succeeds → ∀ value, reply.HoldsHandle value →
    ∃ h answer, .ok answer ∈ g.outcomes w (g.dialogue w ask) ∧ h ∈ answer.handles ∧
      value = .str h.toText ∧ 0 < h ∧ (h ≤ Handle.greatest → Handle.ofText h.toText = .ok h)

/-- How serving a request ends: what asks for nothing is refused and touches nothing. -/
def Ends (g : Gateway σ) (w : World σ) (asks : InodeGateway.Request → Prop)
    (ending : Except Failure Reply × World σ) : Prop :=
  ∃ reply, ending.1 = .ok reply ∧ ((∀ ask, ¬ asks ask) → reply.Refuses ∧ ending.2 = w) ∧
    ∀ ask, asks ask → Told g w ask reply ending.2

namespace Service

/-- A request that is in order is served, any other one is refused. -/
theorem ends_once {ready : Except Reply α} {act : α → Act σ Reply} (toAsk : α → InodeGateway.Request)
    {asks : InodeGateway.Request → Prop}
    (hready : ∀ ask, asks ask ↔ ∃ x, ready = .ok x ∧ ask = toAsk x)
    (hrefused : ∀ reply, ready = .error reply → reply.Refuses)
    (hact : ∀ x, ∃ reply, ((act x).answer w).1 = .ok reply ∧
      Told g w (toAsk x) reply ((act x).answer w).2) :
    Ends g w asks ((once ready act).answer w) := by
  unfold once
  cases ready with
  | ok x =>
    obtain ⟨reply, hreply, told⟩ := hact x
    refine ⟨reply, hreply, fun none_asked => ?_, fun ask hask => ?_⟩
    · exact absurd ((hready (toAsk x)).mpr ⟨x, rfl, rfl⟩) (none_asked _)
    · obtain ⟨x', hx, rfl⟩ := (hready ask).mp hask
      cases hx
      exact told
  | error reply =>
    refine ⟨reply, rfl, fun _ => ⟨hrefused reply rfl, rfl⟩, fun ask hask => ?_⟩
    obtain ⟨x, hx, -⟩ := (hready ask).mp hask
    cases hx

theorem answer_replying (a : Act σ α) (reply : α → Reply) (w : World σ) :
    (replying a reply).answer w = (.ok (match (a.answer w).1 with
      | .ok x => reply x
      | .error f => .ofFailure f), (a.answer w).2) := by
  rw [replying, Call.answer_of]
  rcases a.answer w with ⟨f | x, after⟩ <;> rfl

/-- A report of a failure is no success. -/
theorem told_of_failure {f : Failure} {after : World σ}
    (world : g.afterAll w (g.dialogue w ask) = after)
    (failed : .error f ∈ g.outcomes w (g.dialogue w ask))
    (only : ∀ f', .error f' ∈ g.outcomes w (g.dialogue w ask) → f' = f) :
    Told g w ask (.ofFailure f) after := by
  obtain ⟨code, message, details, hfault⟩ := Gateway.gateway_of_outcomes failed
  have reports := Reply.reports_ofFailure hfault
  refine ⟨world.symm, ⟨fun success => absurd success reports.not_succeeds, fun all => ?_⟩, ?_,
    fun success => absurd success reports.not_succeeds⟩
  · obtain ⟨answer, hanswer⟩ := all _ failed
    cases hanswer
  · intro f' hf'
    rw [only f' hf']
    exact ⟨code, message, details, hfault, reports⟩

theorem told_of_success (dense : g.DenseAt w.inodes) {reply : Reply} {after : World σ}
    (world : g.afterAll w (g.dialogue w ask) = after)
    (all : ∀ outcome ∈ g.outcomes w (g.dialogue w ask), ∃ answer, outcome = .ok answer)
    (success : reply.Succeeds)
    (written : ∀ value, reply.HoldsHandle value → ∃ h answer,
      .ok answer ∈ g.outcomes w (g.dialogue w ask) ∧ h ∈ answer.handles ∧ value = .str h.toText) :
    Told g w ask reply after := by
  refine ⟨world.symm, ⟨fun _ => all, fun _ => success⟩, fun f hf => ?_, fun _ value hvalue => ?_⟩
  · obtain ⟨answer, hanswer⟩ := all _ hf
    cases hanswer
  · obtain ⟨h, answer, hanswer, hh, rfl⟩ := written value hvalue
    have hpos := Gateway.positive_of_outcomes dense hanswer h hh
    exact ⟨h, answer, hanswer, hh, rfl, hpos, Handle.ofText_toText hpos⟩

/-- A request that is served by one request to the gateway. -/
theorem told_replying (dense : g.DenseAt w.inodes) {a : Act σ α} {answer : α → Answer}
    {reply : α → Reply} (performs : g.perform ask = answer <$> a) (single : g.dialogue w ask = [ask])
    (hok : ∀ x, (a.answer w).1 = .ok x → (reply x).Succeeds ∧
      ∀ value, (reply x).HoldsHandle value → ∃ h ∈ (answer x).handles, value = .str h.toText) :
    ∃ r, ((replying a reply).answer w).1 = .ok r ∧
      Told g w ask r ((replying a reply).answer w).2 := by
  have outcome : g.outcomes w (g.dialogue w ask) = [(a.answer w).1.map answer] := by
    rw [single, Gateway.outcomes, performs, Call.answer_map]
    rfl
  have world : g.afterAll w (g.dialogue w ask) = (a.answer w).2 := by
    rw [single]
    show ((g.perform ask).answer w).2 = _
    rw [performs, Call.answer_map]
  rw [answer_replying]
  refine ⟨_, rfl, ?_⟩
  cases heq : (a.answer w).1 with
  | error f =>
    rw [heq] at outcome
    refine told_of_failure world (outcome ▸ List.mem_singleton.mpr rfl) fun f' hf' => ?_
    rw [outcome] at hf'
    exact Except.error.inj (List.mem_singleton.mp hf')
  | ok x =>
    rw [heq] at outcome
    obtain ⟨success, written⟩ := hok x heq
    refine told_of_success dense world (fun o ho => ?_) success fun value hvalue => ?_
    · rw [outcome] at ho
      exact ⟨answer x, List.mem_singleton.mp ho⟩
    · obtain ⟨h, hh, hvalue⟩ := written value hvalue
      exact ⟨h, answer x, outcome ▸ List.mem_singleton.mpr rfl, hh, hvalue⟩

theorem checked_eq_ok_iff {c : Checked α} {x : α} : checked c = .ok x ↔ c = .ok x := by
  cases c <;> simp [checked, Except.mapError]

theorem refuses_of_checked {c : Checked α} {reply : Reply} (h : checked c = .error reply) :
    reply.Refuses := by
  cases c with
  | ok x => cases h
  | error list =>
    cases h
    exact Reply.refuses_complaints list

theorem readHandle_eq_ok_iff {text : String} {h : Handle} :
    readHandle text = .ok h ↔ Handle.ofText text = .ok h := by
  unfold readHandle
  cases Handle.ofText text <;> simp [Except.mapError]

theorem refuses_of_readHandle {text : String} {reply : Reply} (h : readHandle text = .error reply) :
    reply.Refuses := by
  unfold readHandle at h
  cases hread : Handle.ofText text with
  | ok k =>
    rw [hread] at h
    cases h
  | error refusal =>
    rw [hread] at h
    cases h
    refine Reply.refuses_ofFailure ?_
    unfold Handle.ofText at hread
    grind [Refusal.code]

/-- A text that spells a handle has characters. -/
theorem handleText_of_ofText {text : String} {h : Handle} (hh : Handle.ofText text = .ok h) :
    checked (handleText text) = .ok text := by
  refine checked_eq_ok_iff.mpr (Checked.filled_eq_ok_iff.mpr ⟨?_, rfl⟩)
  rintro rfl
  cases hh

section Ready

variable {text : String} {reply : Reply}

theorem handle_ready_iff {h : Handle} :
    (do readHandle (← checked (handleText text))) = .ok h ↔ Handle.ofText text = .ok h := by
  constructor
  · intro hready
    obtain ⟨text', htext, hread⟩ := ok_of_bind hready
    obtain ⟨-, rfl⟩ := Checked.filled_eq_ok_iff.mp (checked_eq_ok_iff.mp htext)
    exact readHandle_eq_ok_iff.mp hread
  · exact fun hh => bind_eq_ok (handleText_of_ofText hh) (readHandle_eq_ok_iff.mpr hh)

theorem refuses_of_handle (h : (do readHandle (← checked (handleText text))) = .error reply) :
    reply.Refuses := by
  rcases error_of_bind h with hchecked | ⟨_, hread⟩
  · exact refuses_of_checked hchecked
  · exact refuses_of_readHandle hread

/-- A path and a document are both looked at before the handle is read. -/
theorem form_ready_iff {h : Handle} {check : Checked α} {form : α} :
    (do
      let text ← checked (handleText text)
      let form ← checked check
      return (← readHandle text, form)) = .ok (h, form) ↔
      Handle.ofText text = .ok h ∧ check = .ok form := by
  constructor
  · intro hready
    obtain ⟨text', htext, hrest⟩ := ok_of_bind hready
    obtain ⟨-, rfl⟩ := Checked.filled_eq_ok_iff.mp (checked_eq_ok_iff.mp htext)
    obtain ⟨form', hform, hlast⟩ := ok_of_bind hrest
    obtain ⟨h', hread, hpair⟩ := ok_of_bind hlast
    cases hpair
    exact ⟨readHandle_eq_ok_iff.mp hread, checked_eq_ok_iff.mp hform⟩
  · rintro ⟨hh, hform⟩
    exact bind_eq_ok (handleText_of_ofText hh) (bind_eq_ok (checked_eq_ok_iff.mpr hform)
      (bind_eq_ok (readHandle_eq_ok_iff.mpr hh) rfl))

theorem refuses_of_form {check : Checked α} (h : (do
      let text ← checked (handleText text)
      let form ← checked check
      return (← readHandle text, form)) = .error reply) : reply.Refuses := by
  rcases error_of_bind h with htext | ⟨_, h⟩
  · exact refuses_of_checked htext
  rcases error_of_bind h with hform | ⟨_, h⟩
  · exact refuses_of_checked hform
  rcases error_of_bind h with hread | ⟨_, h⟩
  · exact refuses_of_readHandle hread
  · cases h

theorem child_ready_iff {h : Handle} {name name' : String} :
    (do
      let (text, name) ← checked ((handleText text).both (Checked.filled "name" name))
      return (← readHandle text, name)) = .ok (h, name') ↔
      Handle.ofText text = .ok h ∧ name ≠ "" ∧ name' = name := by
  constructor
  · intro hready
    obtain ⟨⟨text', named⟩, hboth, hlast⟩ := ok_of_bind hready
    obtain ⟨htext, hname⟩ := Checked.both_eq_ok_iff.mp (checked_eq_ok_iff.mp hboth)
    obtain ⟨-, rfl⟩ := Checked.filled_eq_ok_iff.mp htext
    obtain ⟨filled, rfl⟩ := Checked.filled_eq_ok_iff.mp hname
    obtain ⟨h', hread, hpair⟩ := ok_of_bind hlast
    cases hpair
    exact ⟨readHandle_eq_ok_iff.mp hread, filled, rfl⟩
  · rintro ⟨hh, filled, rfl⟩
    have named : Checked.filled "name" name' = .ok name' :=
      Checked.filled_eq_ok_iff.mpr ⟨filled, rfl⟩
    have both := Checked.both_eq_ok_iff.mpr ⟨checked_eq_ok_iff.mp (handleText_of_ofText hh), named⟩
    exact bind_eq_ok (checked_eq_ok_iff.mpr both) (bind_eq_ok (readHandle_eq_ok_iff.mpr hh) rfl)

theorem refuses_of_child {name : String} (h : (do
      let (text, name) ← checked ((handleText text).both (Checked.filled "name" name))
      return (← readHandle text, name)) = .error reply) : reply.Refuses := by
  rcases error_of_bind h with hboth | ⟨_, h⟩
  · exact refuses_of_checked hboth
  rcases error_of_bind h with hread | ⟨_, h⟩
  · exact refuses_of_readHandle hread
  · cases h

/-- A route that reads a handle alone. -/
theorem ends_handle {act : Handle → Act σ Reply} (toAsk : Handle → InodeGateway.Request)
    (hact : ∀ h, ∃ reply, ((act h).answer w).1 = .ok reply ∧
      Told g w (toAsk h) reply ((act h).answer w).2) :
    Ends g w (fun ask => ∃ h, Handle.ofText text = .ok h ∧ ask = toAsk h)
      ((once (do readHandle (← checked (handleText text))) act).answer w) :=
  ends_once toAsk (fun _ => by simp only [handle_ready_iff]) (fun _ => refuses_of_handle) hact

/-- A route that reads a handle and a document. -/
theorem ends_form {check : Checked α} {filled : α → Prop}
    (hcheck : ∀ form, check = .ok form ↔ filled form) {act : Handle × α → Act σ Reply}
    (toAsk : Handle → α → InodeGateway.Request)
    (hact : ∀ h form, ∃ reply, ((act (h, form)).answer w).1 = .ok reply ∧
      Told g w (toAsk h form) reply ((act (h, form)).answer w).2) :
    Ends g w (fun ask => ∃ h form, Handle.ofText text = .ok h ∧ filled form ∧ ask = toAsk h form)
      ((once (do
        let text ← checked (handleText text)
        let form ← checked check
        return (← readHandle text, form)) act).answer w) := by
  refine ends_once (fun x => toAsk x.1 x.2) (fun ask => ?_) (fun _ => refuses_of_form)
    fun x => hact x.1 x.2
  constructor
  · rintro ⟨h, form, hh, hform, rfl⟩
    exact ⟨(h, form), form_ready_iff.mpr ⟨hh, (hcheck form).mpr hform⟩, rfl⟩
  · rintro ⟨⟨h, form⟩, hready, rfl⟩
    obtain ⟨hh, hform⟩ := form_ready_iff.mp hready
    exact ⟨h, form, hh, (hcheck form).mp hform, rfl⟩

end Ready

section BesideTree

variable {ι : Type} {identities : Identity.Registry ι} {permissions : PermissionModel}
  {rootPath : Path} {enabled : Bool} {w : World (Site Memory ι)}
  (dense : (Gateway.besideTree identities permissions rootPath).DenseAt w.inodes)
  (dated : w.backend.storage.Dated)
include dated

/-- Creating an object keeps the times of the tree such that the new one can be shown. -/
theorem shown_of_made {h made : Handle} {name kind : String} {owner : Principal} {mode : Num}
    {v : World (Site Memory ι)} {a : Attributes}
    (hcreate : ((Gateway.besideTree identities permissions rootPath).create h name kind owner
      mode).answer w = (.ok made, v))
    (hlook : (((Gateway.besideTree identities permissions rootPath).getAttributes made).answer v).1 =
      .ok a) : (Gateway.besideTree identities permissions rootPath).MadeOf Metadata.Dated a := by
  have kept := Gateway.Preserves.after
    (Gateway.dated_besideTree identities permissions rootPath).kept dated
    (.create h name kind owner mode)
  have left : (Gateway.besideTree identities permissions rootPath).after w
      (.create h name kind owner mode) = v := by
    rw [Gateway.after, Gateway.perform, Call.answer_map, hcreate]
  rw [left] at kept
  have told : (((Gateway.besideTree identities permissions rootPath).perform
      (.getAttributes made)).answer v).1 = .ok (.attributes a) := by
    rw [Gateway.perform, Call.answer_map, hlook]
    rfl
  exact Gateway.shown_of_perform (Gateway.dated_besideTree identities permissions rootPath) kept
    told a (List.mem_singleton.mpr rfl)

include dense

/-- An object is made, and then it is looked at. -/
theorem told_creating (h : Handle) (name kind : String) (owner : Principal) (mode : Num) :
    let g := Gateway.besideTree identities permissions rootPath
    let making : Act (Site Memory ι) (Handle × Attributes) := do
      let made ← g.create h name kind owner mode
      return (made, ← g.getAttributes made)
    let served := (replying making fun made => .dataOr 201 (Reply.created? made)).answer w
    ∃ reply, served.1 = .ok reply ∧ Told g w (.create h name kind owner mode) reply served.2 := by
  intro g making served
  simp only [served, answer_replying, making, Call.answer_bind]
  refine ⟨_, rfl, ?_⟩
  rcases hcreate : (g.create h name kind owner mode).answer w with ⟨f | made, v⟩
  · obtain ⟨outcomes, world⟩ := Gateway.dialogue_of_refused hcreate
    refine told_of_failure world (outcomes ▸ List.mem_singleton.mpr rfl) fun f' hf' => ?_
    rw [outcomes] at hf'
    exact Except.error.inj (List.mem_singleton.mp hf')
  rcases hlook : (g.getAttributes made).answer v with ⟨f | a, u⟩
  · obtain ⟨outcomes, world⟩ := Gateway.dialogue_of_made hcreate hlook
    simp only [hlook]
    refine told_of_failure world (outcomes ▸ List.mem_pair.mpr (.inr rfl)) fun f' hf' => ?_
    rw [outcomes] at hf'
    rcases List.mem_pair.mp hf' with heq | heq
    · cases heq
    · exact Except.error.inj heq
  · obtain ⟨outcomes, world⟩ := Gateway.dialogue_of_made hcreate hlook
    obtain ⟨document, hdocument⟩ := Reply.created?_of_dated made
      (shown_of_made dated hcreate (congrArg Prod.fst hlook))
    simp only [hlook, Call.answer_pure, hdocument, Reply.dataOr]
    refine told_of_success dense world (fun o ho => ?_) (Reply.succeeds_data (.inr rfl) document)
      fun value hvalue => ?_
    · rw [outcomes] at ho
      rcases List.mem_pair.mp ho with rfl | rfl <;> exact ⟨_, rfl⟩
    · rcases Reply.holdsHandle_created hdocument hvalue.of_data with rfl | rfl
      · exact ⟨made, .handle made, outcomes ▸ List.mem_pair.mpr (.inl rfl),
          List.mem_singleton.mpr rfl, rfl⟩
      · exact ⟨a.inode, .attributes a, outcomes ▸ List.mem_pair.mpr (.inr rfl),
          List.mem_singleton.mpr rfl, rfl⟩

/-- What is not in order is refused untouched; otherwise the gateway is asked for what the request
says, and the reply tells how that ended. -/
theorem serve_tells (state : ServiceState (Site Memory ι)) {route : Route}
    (names : route.namesObject) (document : Json) :
    Ends (Gateway.besideTree identities permissions rootPath) w (route.Asks document ·)
      (((besideTree identities permissions rootPath enabled).serve state route document).answer w) := by
  have shown : ∀ ask answer, (((Gateway.besideTree identities permissions rootPath).perform
      ask).answer w).1 = .ok answer → ∀ a ∈ answer.shown,
        (Gateway.besideTree identities permissions rootPath).MadeOf Metadata.Dated a :=
    fun _ _ => Gateway.shown_of_perform (Gateway.dated_besideTree identities permissions rootPath)
      dated
  have performs : ∀ {α : Type} {a : Act (Site Memory ι) α} {answer : α → Answer} {x : α},
      (a.answer w).1 = .ok x → ((answer <$> a).answer w).1 = .ok (answer x) := by
    intro α a answer x hx
    rw [Call.answer_map, hx]
    rfl
  -- Where a handle is answered alone, it is all that the reply writes.
  have single : ∀ k : Handle, Reply.Succeeds (.data 200 (Reply.handle k)) ∧
      ∀ value, (Reply.data 200 (Reply.handle k)).HoldsHandle value →
        ∃ h ∈ (Answer.handle k).handles, value = .str h.toText := fun k =>
    ⟨Reply.succeeds_data (.inl rfl) _, fun _ hvalue =>
      ⟨k, List.mem_singleton.mpr rfl, Reply.holdsHandle_handle hvalue.of_data⟩⟩
  cases route with
  | attributes text =>
    refine ends_handle .getAttributes fun h => told_replying dense rfl rfl fun a ha => ?_
    obtain ⟨document, hdocument⟩ := Reply.attributes?_of_dated
      (shown (.getAttributes h) (.attributes a) (performs ha) a (List.mem_singleton.mpr rfl))
    rw [hdocument]
    refine ⟨Reply.succeeds_data (.inl rfl) document, fun value hvalue => ?_⟩
    exact ⟨_, List.mem_singleton.mpr rfl, Reply.holdsHandle_attributes hdocument hvalue.of_data⟩
  | children text =>
    refine ends_handle .list fun h => told_replying dense rfl rfl fun list hlist => ?_
    obtain ⟨document, hdocument⟩ := Reply.entries?_of_dated fun e he =>
      shown (.list h) (.entries list) (performs hlist) e.attributes (List.mem_map_of_mem he)
    rw [hdocument]
    refine ⟨Reply.succeeds_data (.inl rfl) document, fun value hvalue => ?_⟩
    obtain ⟨e, he, heq⟩ := Reply.holdsHandle_entries hdocument hvalue.of_data
    have told : ∀ k ∈ [e.handle, e.attributes.inode], k ∈ (Answer.entries list).handles :=
      fun k hk => List.mem_flatMap.mpr ⟨e, he, hk⟩
    rcases heq with rfl | rfl
    · exact ⟨_, told _ (List.mem_pair.mpr (.inl rfl)), rfl⟩
    · exact ⟨_, told _ (List.mem_pair.mpr (.inr rfl)), rfl⟩
  | parent text => exact ends_handle .parentOf fun h => told_replying dense rfl rfl fun k _ => single k
  | child text name =>
    refine ends_once (fun x => .lookup x.1 x.2) (fun ask => ?_) (fun _ => refuses_of_child) ?_
    · constructor
      · rintro ⟨h, hh, hname, rfl⟩
        exact ⟨(h, name), child_ready_iff.mpr ⟨hh, hname, rfl⟩, rfl⟩
      · rintro ⟨⟨h, name'⟩, hready, rfl⟩
        obtain ⟨hh, hname, rfl⟩ := child_ready_iff.mp hready
        exact ⟨h, hh, hname, rfl⟩
    · exact fun ⟨h, name⟩ => told_replying dense rfl rfl fun k _ => single k
  | access text =>
    refine ends_form (fun _ => AccessForm.check_eq_ok_iff)
      (fun h form => .checkAccess h form.mask) fun h form => ?_
    refine told_replying dense rfl rfl fun bits _ => ?_
    refine ⟨Reply.succeeds_data (.inl rfl) _, fun value hvalue => ?_⟩
    exact absurd hvalue.of_data Reply.not_holdsHandle_granted
  | create text =>
    refine ends_form (fun _ => CreationForm.check_eq_ok_iff)
      (fun h form => .create h form.name form.kind.text form.owner form.mode) fun h form => ?_
    exact told_creating dense dated h form.name form.kind.text form.owner form.mode
  | _ => cases names

end BesideTree

end Service

/-- A request comes to a route that names an object, with a document. -/
structure Request.Reaches (r : Request) (route : Route) (document : Json) : Prop where
  method : r.method ∈ Route.methods
  target : ∃ rest, Target.segments? r.target = some ("v1" :: "inodes" :: rest) ∧
    Route.find? r.method ("v1" :: "inodes" :: rest) = some route
  content : ∃ content, r.document = .ok content ∧ Service.documentOf content = document

theorem Route.namesObject_of_find? {method : String} {rest : List String} {route : Route}
    (h : find? method ("v1" :: "inodes" :: rest) = some route) : route.namesObject := by
  have found := (Option.filter_eq_some_iff.mp h).1
  have read : ∀ {r}, reading? ("v1" :: "inodes" :: rest) = some r → r.namesObject := by
    intro r hr
    unfold reading? at hr
    split at hr <;> grind [namesObject]
  have sent : ∀ {r}, sending? ("v1" :: "inodes" :: rest) = some r → r.namesObject := by
    intro r hr
    unfold sending? at hr
    split at hr <;> grind [namesObject]
  split at found
  · exact read found
  · split at found
    · exact sent found
    · cases found

namespace Service

variable {ι : Type} {identities : Identity.Registry ι} {permissions : PermissionModel}
  {rootPath : Path} {enabled : Bool} {state : ServiceState (Site Memory ι)} {r : Request}
  {route : Route} {document : Json}

/-- A request that reaches a route is answered there. -/
theorem respond_of_reaches {s : Service σ} {state : ServiceState σ} (reaches : r.Reaches route document)
    {reply : Reply} (h : ((s.serve state route document).answer state.world).1 = .ok reply) :
    (s.respond state r).1 = visible r.method reply ∧ (s.respond state r).2.world =
      ((s.serve state route document).answer state.world).2 := by
  obtain ⟨rest, htarget, found⟩ := reaches.target
  obtain ⟨content, hcontent, rfl⟩ := reaches.content
  rw [respond, if_pos reaches.method]
  simp only [htarget, found, respondRoute, answerRoute, hcontent, world_count]
  rcases heq : (s.serve state route (documentOf content)).answer state.world with ⟨f | x, after⟩ <;>
    rw [heq] at h
  · cases h
  · cases h
    exact ⟨rfl, rfl⟩

/-- A service over a new tree in memory whose owner is named by a user id. -/
def settled : Service (Site Memory Unit) :=
  besideTree (Identity.passthrough : Identity.Directory) .fixed .root false

def settledNew : World (Site Memory Unit) where
  backend := ⟨Memory.empty ⟨"7", "grid"⟩ 1024 (.at 0), (), 0⟩

/-- The service when its gateway was just opened. -/
def settledOpen : ServiceState (Site Memory Unit) where
  world := ((Gateway.establish settled.gateway.backend settled.gateway.identities
    settled.gateway.permissions "/").answer settledNew).2

theorem settledOpen_dated : settledOpen.world.backend.storage.Dated := by
  have tree : settledOpen.world.backend.storage.nodes = settledNew.backend.storage.nodes ∧
      settledOpen.world.backend.storage.now = settledNew.backend.storage.now := by
    decide +kernel
  have fresh : Memory.Dated { owner := ⟨"7", "grid"⟩, capacityBytes := 1024, now := .at 0 } :=
    ⟨nofun, nofun⟩
  have new : settledNew.backend.storage.Dated := fresh.insert .root .directory 0 _
  exact ⟨tree.2 ▸ new.now, tree.1 ▸ new.nodes⟩

/-- Where the document says neither, mode and owner are the usual ones. -/
theorem fileWanted_reads : ∃ content, fileWanted.document = .ok content ∧
    CreationForm.check (documentOf content) = .ok ⟨"notes", .file, 420, ⟨0, 0⟩⟩ := by
  have read : (fileWanted.document.toOption.bind fun content =>
      (CreationForm.check (documentOf content)).toOption) =
        some ⟨"notes", .file, 420, ⟨0, 0⟩⟩ := by
    decide +kernel
  obtain ⟨content, hcontent, hform⟩ := Option.bind_eq_some_iff.mp read
  exact ⟨content, ok_of_toOption hcontent, ok_of_toOption hform⟩

end Service

end Http

end InodeGateway
