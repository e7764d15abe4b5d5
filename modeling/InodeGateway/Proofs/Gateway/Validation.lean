import InodeGateway.Proofs.Arguments
import InodeGateway.Proofs.Gateway.Exchanges
import InodeGateway.Proofs.Gateway.Run

/-!
# Requests that are turned down

A request is looked at before anything else happens: whether its handles stand for something, and
whether its arguments will do.  One that is turned down opens no session and changes nothing, and
what speaks against it first decides how it is answered.

## Main definitions

* `Request.Valid` — nothing speaks against a request, given the table
* `Request.Rejected` — a request is turned down with a class of failure

## Main statements

* `Gateway.perform_validates` — requests are turned down before the backend is asked
-/

namespace InodeGateway

/-- The handle stands for something. -/
def Inodes.Knows (t : Inodes) (h : Handle) : Prop := ∃ p, t.paths.get? h = some p

/-- A handle for which operations have a use. -/
def Inodes.Accepts (t : Inodes) (h : Handle) : Prop := 0 < h ∧ t.Knows h

/-- A handle for which operations have no use, and the class of failure that says so. -/
def Inodes.Refuses (t : Inodes) (h : Handle) (code : Code) : Prop :=
  (h ≤ 0 ∧ code = .invalidArgument) ∨ (0 < h ∧ ¬ t.Knows h ∧ code = .notFound)

/-- The first handle of the list without use decides. -/
def Inodes.RefusesFirst (t : Inodes) (handles : List Handle) (code : Code) : Prop :=
  ∃ before h after, handles = before ++ h :: after ∧ (∀ h' ∈ before, t.Accepts h') ∧
    t.Refuses h code

namespace Request

/-- The handles that a request names. -/
def handles : Request → List Handle
  | .getAttributes h | .checkAccess h _ | .create h _ _ _ _ | .list h | .lookup h _ | .parentOf h
  | .commit h => [h]
  | .statistics => []
  | .unoffered what => what.handles

/-- All that a request says beside its handles is acceptable. -/
def Acceptable : Request → Prop
  | .checkAccess _ mask => Mode.IsAcceptable mask
  | .create _ name kind owner mode => Creation.IsAcceptable name kind owner mode
  | .lookup _ name => Name.IsAcceptable name ∨ name = "." ∨ name = ".."
  | _ => True

/-- Nothing speaks against a request. -/
structure Valid (t : Inodes) (r : Request) : Prop where
  handles : ∀ h ∈ r.handles, t.Accepts h
  acceptable : r.Acceptable

/-- How a request is turned down.  For a new object, all that is said of it comes before the
question whether its directory stands for something; a mask comes before the handle; otherwise the
handles come first, in their order. -/
def Rejected (t : Inodes) (r : Request) (code : Code) : Prop :=
  match r with
  | .create parent _ _ _ _ =>
    ((parent ≤ 0 ∨ ¬ r.Acceptable) ∧ code = .invalidArgument) ∨
      (0 < parent ∧ r.Acceptable ∧ ¬ t.Knows parent ∧ code = .notFound)
  | .checkAccess h _ =>
    (¬ r.Acceptable ∧ code = .invalidArgument) ∨ (r.Acceptable ∧ t.Refuses h code)
  | _ => t.RefusesFirst r.handles code ∨
      ((∀ h ∈ r.handles, t.Accepts h) ∧ ¬ r.Acceptable ∧ code = .invalidArgument)

end Request

namespace Act

variable {σ α β : Type}

/-- In this world, the action is refused at once and changes nothing. -/
def Declines (a : Act σ α) (w : World σ) (refusal : Refusal) : Prop :=
  a.answer w = (.error refusal.failure, w)

namespace Declines

variable {w : World σ} {refusal : Refusal} {a : Act σ α} {k : α → Act σ β}

theorem bind (h : a.Declines w refusal) : (a >>= k).Declines w refusal := by
  rw [Declines, Call.answer_bind, h]

/-- What was only looked at does not count. -/
theorem after {x : α} (ha : a.answer w = (.ok x, w)) (hk : (k x).Declines w refusal) :
    (a >>= k).Declines w refusal := by
  rw [Declines, Call.answer_bind, ha]
  exact hk

theorem check {outcome : Except Refusal α} (h : outcome = .error refusal) :
    (Act.check outcome).Declines w refusal := by
  rw [h]
  rfl

theorem look {f : Inodes → Except Refusal α} (h : f w.inodes = .error refusal) :
    (Act.look f : Act σ α).Declines w refusal := by
  rw [Declines, Act.look, answer_table, h]
  rfl

end Declines

theorem answer_check_ok {outcome : Except Refusal α} {x : α} (h : outcome = .ok x) (w : World σ) :
    (check outcome : Act σ α).answer w = (.ok x, w) := by
  rw [h]
  rfl

theorem answer_look_ok {f : Inodes → Except Refusal α} {w : World σ} {x : α}
    (h : f w.inodes = .ok x) : (look f : Act σ α).answer w = (.ok x, w) := by
  rw [look, answer_table, h]
  rfl

end Act

namespace Gateway

open Act (Declines)

variable {σ α β : Type}

/-- A handle that is accepted has a path; any other one is refused for what it is. -/
theorem pathFor_cases (t : Inodes) (h : Handle) :
    (t.Accepts h ∧ ∃ p, pathFor t h = .ok p) ∨
      (¬ t.Accepts h ∧ ∃ refusal, pathFor t h = .error refusal ∧ t.Refuses h refusal.code) := by
  unfold pathFor
  split
  · next hneg =>
    exact .inr ⟨fun haccepts => absurd hneg (Int.not_le.mpr haccepts.1), _, rfl, .inl ⟨hneg, rfl⟩⟩
  · next hpos =>
    have hpos := Int.not_le.mp hpos
    unfold Inodes.pathOf
    cases hp : t.paths.get? h with
    | some p => exact .inl ⟨⟨hpos, p, hp⟩, p, rfl⟩
    | none =>
      have unknown : ¬ t.Knows h := by
        rintro ⟨p, hp'⟩
        cases hp.symm.trans hp'
      exact .inr ⟨fun haccepts => unknown haccepts.2, _, rfl, .inr ⟨hpos, unknown, rfl⟩⟩

section Handles

variable {w : World σ} {h : Handle}

theorem answer_resolve (haccepts : w.inodes.Accepts h) :
    ∃ p, (resolve h : Act σ Path).answer w = (.ok p, w) := by
  obtain ⟨-, p, hp⟩ | ⟨hnot, -⟩ := pathFor_cases w.inodes h
  · exact ⟨p, Act.answer_look_ok hp⟩
  · exact absurd haccepts hnot

theorem resolve_declines (hnot : ¬ w.inodes.Accepts h) :
    ∃ refusal, (resolve h : Act σ Path).Declines w refusal ∧ w.inodes.Refuses h refusal.code := by
  obtain ⟨haccepts, -⟩ | ⟨-, refusal, hrefusal, hcode⟩ := pathFor_cases w.inodes h
  · exact absurd haccepts hnot
  · exact ⟨refusal, .look hrefusal, hcode⟩

/-- Handles are looked at in their order, up to the first one without use. -/
theorem resolveAll_declines {handles : List Handle} (hnot : ¬ ∀ h ∈ handles, w.inodes.Accepts h) :
    ∃ refusal, (resolveAll handles : Act σ Unit).Declines w refusal ∧
      w.inodes.RefusesFirst handles refusal.code := by
  induction handles with
  | nil => exact absurd nofun hnot
  | cons h rest ih =>
    by_cases haccepts : w.inodes.Accepts h
    · have hrest : ¬ ∀ h ∈ rest, w.inodes.Accepts h :=
        fun hall => hnot (List.forall_mem_cons.mpr ⟨haccepts, hall⟩)
      obtain ⟨refusal, hdeclines, before, h', after, rfl, hbefore, hcode⟩ := ih hrest
      obtain ⟨p, hp⟩ := answer_resolve haccepts
      exact ⟨refusal, .after hp hdeclines, h :: before, h', after, rfl,
        List.forall_mem_cons.mpr ⟨haccepts, hbefore⟩, hcode⟩
    · obtain ⟨refusal, hdeclines, hcode⟩ := resolve_declines haccepts
      exact ⟨refusal, hdeclines.bind, [], h, rest, rfl, nofun, hcode⟩

end Handles

/-- The request is turned down, and neither the table nor the backend has changed. -/
structure TurnsDown (w : World σ) (r : Request) (a : Act σ α) : Prop where
  ends : ∃ refusal : Refusal, (a.answer w).1 = .error refusal.failure ∧
    r.Rejected w.inodes refusal.code
  inodes : (a.answer w).2.inodes = w.inodes
  backend : (a.answer w).2.backend = w.backend

namespace TurnsDown

variable {w : World σ} {r : Request}

theorem map {a : Act σ α} (h : TurnsDown w r a) (f : α → β) : TurnsDown w r (f <$> a) := by
  obtain ⟨⟨refusal, hrefusal, hrejected⟩, hinodes, hbackend⟩ := h
  refine ⟨⟨refusal, ?_, hrejected⟩, ?_, ?_⟩ <;> rw [Call.answer_map]
  · rw [hrefusal]
    rfl
  · exact hinodes
  · exact hbackend

/-- An operation that is refused at once reports the refusal as it is. -/
theorem run {operation : Operation} {context : Journal.Fields} {body : Act σ α} {refusal : Refusal}
    (hbody : body.Declines w refusal) (hrejected : r.Rejected w.inodes refusal.code) :
    TurnsDown w r (run operation context body) := by
  refine ⟨⟨refusal, ?_, hrejected⟩, ?_, ?_⟩ <;>
    · rw [Gateway.run, Call.answer_of, hbody]
      rfl

/-- Most operations begin with their handle, and have no other argument. -/
theorem begins {operation : Operation} {context : Journal.Fields} {h : Handle}
    {k : Path → Act σ α} (hnot : ¬ r.Valid w.inodes) (hhandles : r.handles = [h])
    (hacceptable : r.Acceptable)
    (hrejected : ∀ code, w.inodes.RefusesFirst [h] code → r.Rejected w.inodes code) :
    TurnsDown w r (Gateway.run operation context (resolve h >>= k)) := by
  obtain ⟨refusal, hdeclines, hcode⟩ := resolve_declines (w := w) (h := h) fun haccepts =>
    hnot ⟨hhandles ▸ List.forall_mem_singleton.mpr haccepts, hacceptable⟩
  exact run hdeclines.bind (hrejected _ ⟨[], h, [], rfl, nofun, hcode⟩)

end TurnsDown

variable (g : Gateway σ) {w : World σ}

theorem create_turnsDown {parent : Handle} {name kind : String} {owner : Principal} {mode : Num}
    (hnot : ¬ (Request.create parent name kind owner mode).Valid w.inodes) :
    TurnsDown w (.create parent name kind owner mode) (g.create parent name kind owner mode) := by
  rcases hcheck : Creation.check parent name kind owner mode with refusal | wanted
  · refine .run (Declines.check hcheck).bind (.inl ⟨?_, Creation.code_of_check hcheck⟩)
    rw [← Int.not_lt, ← Classical.not_and_iff_not_or_not]
    intro hgood
    obtain ⟨wanted, hwanted⟩ := Creation.check_eq_ok_iff.mpr hgood
    cases hcheck.symm.trans hwanted
  · obtain ⟨hpositive, hacceptable⟩ := Creation.check_eq_ok_iff.mp ⟨wanted, hcheck⟩
    have unknown : ¬ w.inodes.Knows parent := fun hknows =>
      hnot ⟨List.forall_mem_singleton.mpr ⟨hpositive, hknows⟩, hacceptable⟩
    have hparent : w.inodes.pathOf parent = .error (.unknownHandle parent) := by
      unfold Inodes.pathOf
      cases hp : w.inodes.paths.get? parent with
      | some p => exact absurd ⟨p, hp⟩ unknown
      | none => rfl
    exact .run (.after (Act.answer_check_ok hcheck w) (Declines.look hparent).bind)
      (.inr ⟨hpositive, hacceptable, unknown, rfl⟩)

theorem checkAccess_turnsDown {h : Handle} {mask : Num}
    (hnot : ¬ (Request.checkAccess h mask).Valid w.inodes) :
    TurnsDown w (.checkAccess h mask) (g.checkAccess h mask) := by
  rcases hcheck : Mode.check .mask mask with refusal | ⟨⟩
  · refine .run (Declines.check hcheck).bind (.inl ⟨fun hmask => ?_, Mode.code_of_check hcheck⟩)
    cases hcheck.symm.trans ((Mode.check_eq_ok_iff .mask).mpr hmask)
  · have hmask := (Mode.check_eq_ok_iff .mask).mp hcheck
    obtain ⟨refusal, hdeclines, hcode⟩ := resolve_declines (w := w) (h := h) fun haccepts =>
      hnot ⟨List.forall_mem_singleton.mpr haccepts, hmask⟩
    exact .run (.after (Act.answer_check_ok hcheck w) hdeclines.bind) (.inr ⟨hmask, hcode⟩)

theorem lookup_turnsDown {parent : Handle} {name : String}
    (hnot : ¬ (Request.lookup parent name).Valid w.inodes) :
    TurnsDown w (.lookup parent name) (g.lookup parent name) := by
  by_cases haccepts : w.inodes.Accepts parent
  · have hname : ¬ (Request.lookup parent name).Acceptable := fun hacceptable =>
      hnot ⟨List.forall_mem_singleton.mpr haccepts, hacceptable⟩
    obtain ⟨p, hp⟩ := answer_resolve haccepts
    have hothers := not_or.mp hname
    rcases hcheck : Name.ofText name with refusal | n
    · refine .run (.after hp (?_ : Declines _ w refusal))
        (.inr ⟨List.forall_mem_singleton.mpr haccepts, hname, Name.code_of_ofText hcheck⟩)
      rw [if_neg (not_or.mp hothers.2).1, if_neg (not_or.mp hothers.2).2]
      exact (Declines.check hcheck).bind
    · exact absurd (Name.ofText_eq_ok_iff.mp ⟨n, hcheck⟩) hothers.1
  · obtain ⟨refusal, hdeclines, hcode⟩ := resolve_declines haccepts
    exact .run hdeclines.bind (.inl ⟨[], parent, [], rfl, nofun, hcode⟩)

/-- A request that something speaks against is turned down. -/
theorem perform_turnsDown {r : Request} (hnot : ¬ r.Valid w.inodes) :
    TurnsDown w r (g.perform r) := by
  cases r with
  | checkAccess h mask => exact (g.checkAccess_turnsDown hnot).map _
  | create parent name kind owner mode => exact (g.create_turnsDown hnot).map _
  | lookup parent name => exact (g.lookup_turnsDown hnot).map _
  | getAttributes h => exact (TurnsDown.begins hnot rfl trivial fun _ hcode => .inl hcode).map _
  | list h => exact (TurnsDown.begins hnot rfl trivial fun _ hcode => .inl hcode).map _
  | parentOf h => exact (TurnsDown.begins hnot rfl trivial fun _ hcode => .inl hcode).map _
  | commit h => exact (TurnsDown.begins hnot rfl trivial fun _ hcode => .inl hcode).map _
  | statistics => exact absurd ⟨nofun, trivial⟩ hnot
  | unoffered what =>
    obtain ⟨refusal, hdeclines, hcode⟩ := resolveAll_declines fun hall => hnot ⟨hall, trivial⟩
    exact (TurnsDown.run (r := .unoffered what) hdeclines.bind (.inl hcode)).map _

/-- A request that something speaks against is turned down before the backend or the registry of
identities is asked for anything, and nothing has changed.  So an operation opens a session only if
nothing speaks against its request. -/
theorem perform_validates (g : Gateway σ) (w : World σ) (r : Request) :
    ((∃ s, .opened s ∈ g.exchanges w r) → r.Valid w.inodes) ∧
    (¬ r.Valid w.inodes →
      (∃ refusal : Refusal, ((g.perform r).answer w).1 = .error refusal.failure ∧
        r.Rejected w.inodes refusal.code) ∧
      g.exchanges w r = [] ∧ (g.after w r).inodes = w.inodes ∧
      (g.after w r).backend = w.backend) := by
  -- The gateway with its calls written down turns the request down as well.
  have silent : ¬ r.Valid w.inodes → g.exchanges w r = [] := fun hnot =>
    congrArg Prod.snd (g.followed.perform_turnsDown (w := w.following) hnot).backend
  refine ⟨fun ⟨s, hs⟩ => ?_, fun hnot => ?_⟩
  · refine Classical.byContradiction fun hnot => ?_
    rw [silent hnot] at hs
    cases hs
  · have down := g.perform_turnsDown hnot
    exact ⟨down.ends, silent hnot, down.inodes, down.backend⟩

/-- A mask that is no number is an invalid argument, although nothing has the handle either. -/
theorem overMemory_validates :
    (∃ refusal : Refusal,
      ((overMemory.perform (.checkAccess 9 .nan)).answer openTree).1 = .error refusal.failure ∧
        refusal.code = .invalidArgument) ∧
      overMemory.exchanges openTree (.checkAccess 9 .nan) = [] := by
  have unacceptable : ¬ (Request.checkAccess 9 .nan).Acceptable := by
    rintro ⟨n, -, h⟩
    cases h
  obtain ⟨⟨refusal, hrefusal, hrejected⟩, silent, -⟩ :=
    (perform_validates overMemory openTree (.checkAccess 9 .nan)).2 fun hvalid =>
      unacceptable hvalid.acceptable
  refine ⟨⟨refusal, hrefusal, ?_⟩, silent⟩
  rcases hrejected with ⟨-, hcode⟩ | ⟨hacceptable, -⟩
  · exact hcode
  · exact absurd hacceptable unacceptable

end Gateway

end InodeGateway
