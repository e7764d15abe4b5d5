import InodeGateway.Proofs.Attributes
import InodeGateway.Proofs.Gateway.Density
import InodeGateway.Proofs.Path.Spellings
import Mathlib.Data.List.Forall2

/-!
# Listing a directory, child by child

A listing visits the children that the backend told of, one after another: each is described, unless
it is gone by now, gets its handle, and its owner is looked up.  The first visit that fails ends the
listing; the handles that were given until then remain.

## Main definitions

* `Visit` — what came of the visit to one child
* `Gateway.visits` — the visits, as the backend and the registry answer them
* `Gateway.IsEntry` — the entry of a child that was described
* `Gateway.Yields` — what the visits come to: entries, or the failure of the last one
* `Gateway.Lists` — the outcome of a listing, and the table that it leaves

## Main statements

* `Gateway.answer_entries` — the loop over the children comes to what their visits come to
* `Gateway.Lists.again` — the same visits a second time give the same entries and no handles
* `Gateway.OpenedAt.afterSteps_lists` — so it is in every state of an open gateway
-/

namespace InodeGateway

variable {σ : Type}

/-- What came of the visit to a child that a backend told of. -/
inductive Visit where
  /-- It is gone by now. -/
  | vanished
  /-- It is described, and its owner has a user id. -/
  | described (m : Metadata) (userId : Nat)
  /-- It is described, but its owner has no user id. -/
  | unowned (m : Metadata) (f : Failure)
  /-- It cannot be described. -/
  | unseen (f : Failure)

namespace Visit

/-- The failure of a visit, with which the listing ends. -/
def failure? : Visit → Option Failure
  | .vanished | .described _ _ => none
  | .unowned _ f | .unseen f => some f

/-- Whether the child was seen, so that it gets a handle. -/
def sees : Visit → Bool
  | .described _ _ | .unowned _ _ => true
  | .vanished | .unseen _ => false

/-- The paths of the children that were seen. -/
def seen (ps : List Path) (vs : List Visit) : List Path :=
  ((ps.zip vs).filter fun e => e.2.sees).map Prod.fst

/-- The children of which an entry tells: their paths, descriptions and owners. -/
def told (ps : List Path) (vs : List Visit) : List (Path × Metadata × Nat) :=
  (ps.zip vs).filterMap fun
    | (p, .described m id) => some (p, m, id)
    | _ => none

theorem seen_cons_of_sees {v : Visit} (hv : v.sees = true) (p : Path) (ps : List Path)
    (vs : List Visit) : seen (p :: ps) (v :: vs) = p :: seen ps vs := by
  simp [seen, hv]

theorem seen_cons_of_hidden {v : Visit} (hv : v.sees = false) (p : Path) (ps : List Path)
    (vs : List Visit) : seen (p :: ps) (v :: vs) = seen ps vs := by
  simp [seen, hv]

/-- No visit fails. -/
def Succeed (vs : List Visit) : Prop := ∀ v ∈ vs, v.failure? = none

/-- The last visit fails, and no other. -/
def EndWith (vs : List Visit) (f : Failure) : Prop :=
  ∃ before v, vs = before ++ [v] ∧ Succeed before ∧ v.failure? = some f

theorem Succeed.nil : Succeed [] := fun _ h => (List.not_mem_nil h).elim

theorem Succeed.cons {v : Visit} {vs : List Visit} (hv : v.failure? = none) (h : Succeed vs) :
    Succeed (v :: vs) :=
  List.forall_mem_cons.mpr ⟨hv, h⟩

theorem EndWith.single {v : Visit} {f : Failure} (hv : v.failure? = some f) : EndWith [v] f :=
  ⟨[], v, rfl, .nil, hv⟩

theorem EndWith.cons {v : Visit} {vs : List Visit} {f : Failure} (hv : v.failure? = none)
    (h : EndWith vs f) : EndWith (v :: vs) f := by
  obtain ⟨before, u, rfl, succeed, hu⟩ := h
  exact ⟨v :: before, u, rfl, .cons hv succeed, hu⟩

theorem endWith_cons_cases {v : Visit} {vs : List Visit} {f : Failure} (h : EndWith (v :: vs) f) :
    (vs = [] ∧ v.failure? = some f) ∨ (v.failure? = none ∧ EndWith vs f) := by
  obtain ⟨before, u, heq, succeed, hu⟩ := h
  cases before with
  | nil =>
    obtain ⟨rfl, rfl⟩ := List.cons.inj heq
    exact .inl ⟨rfl, hu⟩
  | cons first before =>
    obtain ⟨rfl, rfl⟩ := List.cons.inj heq
    obtain ⟨hv, succeed⟩ := List.forall_mem_cons.mp succeed
    exact .inr ⟨hv, before, u, rfl, succeed, hu⟩

end Visit

namespace Gateway

/-- The visit to a child, and the state that it leaves. -/
def visit (g : Gateway σ) (s : Session) (text : String) (x : σ) : Visit × σ :=
  match (g.backend.stat s text).answer x with
  | (.error f, y) => (if f.isMissing then .vanished else .unseen f, y)
  | (.ok m, y) =>
    match (Attributes.askUserId g.identities m).answer { backend := y } with
    | (.ok id, w) => (.described m id, w.backend)
    | (.error f, w) => (.unowned m f, w.backend)

/-- The visits to children, one after another, and the state that they leave.  The first one that
fails is the last. -/
def visits (g : Gateway σ) (s : Session) : List String → σ → List Visit × σ
  | [], x => ([], x)
  | text :: rest, x =>
    let (v, y) := g.visit s text x
    if v.failure?.isSome then ([v], y)
    else
      let (vs, z) := g.visits s rest y
      (v :: vs, z)

/-- The entry of a child that was described: its name, the handle that stands for its path, and the
attributes under that handle. -/
def IsEntry (g : Gateway σ) (t : Inodes) (child : Path × Metadata × Nat) (e : DirectoryEntry) :
    Prop :=
  e.name = child.1.lastName ∧ (e.handle, child.1) ∈ t.entries ∧
    e.attributes = Attributes.shown g.permissions e.handle child.2.1 child.2.2

variable {g : Gateway σ} {s : Session} {text : String} {x : σ}

theorem visits_cons_of_some {f : Failure} (hv : (g.visit s text x).1.failure? = some f)
    (rest : List String) :
    g.visits s (text :: rest) x = ([(g.visit s text x).1], (g.visit s text x).2) := by
  simp only [visits, hv, Option.isSome_some, if_true]

theorem visits_cons_of_none (hv : (g.visit s text x).1.failure? = none) (rest : List String) :
    g.visits s (text :: rest) x =
      ((g.visit s text x).1 :: (g.visits s rest (g.visit s text x).2).1,
        (g.visits s rest (g.visit s text x).2).2) := by
  simp only [visits, hv, Option.isSome_none, Bool.false_eq_true, if_false]

/-- Either every child was visited and no visit failed, or the last visit failed. -/
theorem visits_cases (g : Gateway σ) (s : Session) (texts : List String) (x : σ) :
    (Visit.Succeed (g.visits s texts x).1 ∧ (g.visits s texts x).1.length = texts.length) ∨
      ∃ f, Visit.EndWith (g.visits s texts x).1 f := by
  induction texts generalizing x with
  | nil => exact .inl ⟨.nil, rfl⟩
  | cons text rest ih =>
    cases hv : (g.visit s text x).1.failure? with
    | some f =>
      rw [visits_cons_of_some hv]
      exact .inr ⟨f, .single hv⟩
    | none =>
      rw [visits_cons_of_none hv]
      rcases ih (g.visit s text x).2 with ⟨succeed, length⟩ | ⟨f, ends⟩
      · exact .inl ⟨.cons hv succeed, congrArg (· + 1) length⟩
      · exact .inr ⟨f, .cons hv ends⟩

/-! ### The steps of a visit -/

theorem answer_statOptional (g : Gateway σ) (s : Session) (text : String) (w : World σ) :
    (g.statOptional s text).answer w =
      (match ((g.backend.stat s text).answer w.backend).1 with
        | .ok m => .ok (some m)
        | .error f => if f.isMissing then .ok none else .error f,
      { w with backend := ((g.backend.stat s text).answer w.backend).2 }) := by
  rw [statOptional, Act.orMissing, Call.answer_of, Call.answer_map, Act.answer_call]
  rcases (g.backend.stat s text).answer w.backend with ⟨f | m, y⟩
  · rfl
  · rfl

theorem answer_sight {t : Inodes} {p : Path} {h : Handle} (hp : Path.ofText text = .ok p)
    (hh : (t.sightPath p).1 = .ok h) (w : World σ) (hw : w.inodes = t) :
    (sight text : Act σ Handle).answer w = (.ok h, { w with inodes := (t.sightPath p).2 }) := by
  subst hw
  simp only [sight, Act.answer_explain, Act.answer_table, Inodes.sight, hp, hh, Except.mapError]

/-- What the visit to the first child makes of a listing, over a dense table. -/
theorem answer_entries_cons {w : World σ} {p : Path} (hw : w.inodes.Dense)
    (hp : Path.ofText text = .ok p) (rest : List String) :
    ∃ v : World σ, v.backend = (g.visit s text w.backend).2 ∧
      match (g.visit s text w.backend).1 with
      | .vanished => v.inodes = w.inodes ∧
        (g.entries s (text :: rest)).answer w = (g.entries s rest).answer v
      | .unseen f => v.inodes = w.inodes ∧ (g.entries s (text :: rest)).answer w = (.error f, v)
      | .unowned _ f => v.inodes = (w.inodes.sightPath p).2 ∧
        (g.entries s (text :: rest)).answer w = (.error f, v)
      | .described m id => v.inodes = (w.inodes.sightPath p).2 ∧
        ∃ h, (w.inodes.sightPath p).1 = .ok h ∧
          (g.entries s (text :: rest)).answer w =
            (((g.entries s rest).answer v).1.map
              (⟨p.lastName, h, Attributes.shown g.permissions h m id⟩ :: ·),
              ((g.entries s rest).answer v).2) := by
  obtain ⟨h, hh⟩ := hw.sightPath_ok p
  have name := Spelling.name_of_ofText hp
  simp only [entries, Call.answer_bind, answer_statOptional, visit]
  rcases (g.backend.stat s text).answer w.backend with ⟨f | m, y⟩
  · cases hf : f.isMissing with
    | true =>
      simp only [hf, if_true, Call.answer_bind, Act.answer_note]
      refine ⟨_, ?_, ?_, rfl⟩ <;> rfl
    | false =>
      simp only [hf, Bool.false_eq_true, if_false]
      refine ⟨_, ?_, ?_, rfl⟩ <;> rfl
  · simp only [Call.answer_bind, answer_sight hp hh { w with backend := y } rfl, name, Act.check,
      Act.answer_result, Except.mapError, Attributes.answer_ofMetadata]
    rcases (Attributes.askUserId g.identities m).answer { backend := y } with ⟨f | id, u⟩
    · refine ⟨_, ?_, ?_, rfl⟩ <;> rfl
    · simp only
      generalize hv : ({ w with backend := u.backend, inodes := (w.inodes.sightPath p).2 }).note
        .trace Attributes.madeMessage [("path", m.path), ("handle", h.toText)] = v
      refine ⟨v, by rw [← hv]; rfl, by rw [← hv]; rfl, h, hh, ?_⟩
      rcases (g.entries s rest).answer v with ⟨f | l, v'⟩ <;> rfl

/-! ### The whole listing -/

/-- What the visits to children come to, over the table `t`: the entries of those that were
described, or the failure of the last visit. -/
inductive Yields (g : Gateway σ) (t : Inodes) :
    List Path → List Visit → Except Failure (List DirectoryEntry) → Prop where
  | nil : g.Yields t [] [] (.ok [])
  | vanished {p : Path} {ps : List Path} {vs : List Visit}
      {r : Except Failure (List DirectoryEntry)} (rest : g.Yields t ps vs r) :
      g.Yields t (p :: ps) (.vanished :: vs) r
  | described {p : Path} {ps : List Path} {vs : List Visit} {m : Metadata} {id : Nat}
      {e : DirectoryEntry} {r : Except Failure (List DirectoryEntry)}
      (he : g.IsEntry t (p, m, id) e) (rest : g.Yields t ps vs r) :
      g.Yields t (p :: ps) (.described m id :: vs) (r.map (e :: ·))
  | fails {ps : List Path} {v : Visit} {f : Failure} (hv : v.failure? = some f) :
      g.Yields t ps [v] (.error f)

section Yields

variable {t : Inodes} {paths : List Path} {vs : List Visit}
  {r : Except Failure (List DirectoryEntry)}

/-- Visits of which none fails yield entries. -/
theorem Yields.of_succeed (h : g.Yields t paths vs r) (succeed : Visit.Succeed vs) :
    ∃ l, r = .ok l ∧ List.Forall₂ (g.IsEntry t) (Visit.told paths vs) l := by
  induction h with
  | nil => exact ⟨[], rfl, .nil⟩
  | vanished _ ih =>
    obtain ⟨l, rfl, rows⟩ := ih (List.forall_mem_cons.mp succeed).2
    exact ⟨l, rfl, rows⟩
  | described he _ ih =>
    obtain ⟨l, rfl, rows⟩ := ih (List.forall_mem_cons.mp succeed).2
    exact ⟨_, rfl, .cons he rows⟩
  | fails hv =>
    rw [succeed _ List.mem_cons_self] at hv
    cases hv

/-- Visits of which the last one fails yield its failure. -/
theorem Yields.of_endWith {f : Failure} (h : g.Yields t paths vs r) (ends : Visit.EndWith vs f) :
    r = .error f := by
  induction h with
  | nil =>
    obtain ⟨before, v, heq, -⟩ := ends
    simp at heq
  | vanished _ ih =>
    obtain ⟨-, hv⟩ | ⟨-, ends⟩ := Visit.endWith_cons_cases ends
    · cases hv
    · exact ih ends
  | described _ _ ih =>
    obtain ⟨-, hv⟩ | ⟨-, ends⟩ := Visit.endWith_cons_cases ends
    · cases hv
    · rw [ih ends]
      rfl
  | fails hv =>
    obtain ⟨-, hv'⟩ | ⟨hv', -⟩ := Visit.endWith_cons_cases ends
    · rw [Option.some.inj (hv.symm.trans hv')]
    · rw [hv'] at hv
      cases hv

end Yields

/-- The loop over the children comes to what their visits come to, and those that were seen have
handles. -/
theorem answer_entries {texts : List String} {paths : List Path}
    (spelled : List.Forall₂ (fun text p => Path.ofText text = .ok p) texts paths) {w : World σ}
    (hw : w.inodes.Dense) :
    let visits := (g.visits s texts w.backend).1
    let outcome := (g.entries s texts).answer w
    outcome.2.inodes = w.inodes.sightAll (Visit.seen paths visits) ∧
      g.Yields outcome.2.inodes paths visits outcome.1 := by
  induction spelled generalizing w with
  | nil => exact ⟨rfl, .nil⟩
  | @cons text p rest ps hp _ ih =>
    obtain ⟨v, hbackend, step⟩ := answer_entries_cons (g := g) (s := s) hw hp rest
    have seen_nil : Visit.seen ps [] = [] := by simp [Visit.seen]
    cases hvisit : (g.visit s text w.backend).1 with
    | vanished =>
      rw [hvisit] at step
      obtain ⟨table, yields⟩ := ih (w := v) (step.1 ▸ hw)
      rw [visits_cons_of_none (by rw [hvisit]; rfl), hvisit, step.2, ← hbackend, ← step.1]
      exact ⟨table, .vanished yields⟩
    | unseen f =>
      rw [hvisit] at step
      rw [visits_cons_of_some (f := f) (by rw [hvisit]; rfl), hvisit, step.2]
      refine ⟨?_, .fails rfl⟩
      rw [Visit.seen_cons_of_hidden rfl, seen_nil]
      exact step.1
    | unowned m f =>
      rw [hvisit] at step
      rw [visits_cons_of_some (f := f) (by rw [hvisit]; rfl), hvisit, step.2]
      refine ⟨?_, .fails rfl⟩
      rw [Visit.seen_cons_of_sees rfl, seen_nil]
      exact step.1
    | described m id =>
      rw [hvisit] at step
      obtain ⟨hinodes, h, hh, hanswer⟩ := step
      obtain ⟨table, yields⟩ := ih (w := v) (hinodes ▸ hw.sightPath p)
      rw [visits_cons_of_none (by rw [hvisit]; rfl), hvisit, hanswer, ← hbackend]
      refine ⟨?_, .described ⟨rfl, ?_, rfl⟩ yields⟩
      · rw [Visit.seen_cons_of_sees rfl]
        exact table.trans (hinodes ▸ rfl)
      · -- The handle that the child got is still its own when the others have theirs.
        have registered : (h, p) ∈ v.inodes.entries :=
          hinodes ▸ hw.coherent.mem_of_sightPath hh
        show (h, p) ∈ ((g.entries s rest).answer v).2.inodes.entries
        rw [table]
        exact (v.inodes.entries_prefix_sightAll _).subset registered

/-- A listing of a directory over the table `t`, whose children were visited.  Those that were seen
and had no handle got the next ones, in the order of their first appearance.  If no visit failed,
each child that was described has its entry; otherwise the listing fails as the visit did. -/
structure Lists (g : Gateway σ) (t : Inodes) (paths : List Path) (visits : List Visit)
    (outcome : Except Failure (List DirectoryEntry) × World σ) : Prop where
  table : outcome.2.inodes.entries = t.entries ++
    (t.fresh (Visit.seen paths visits)).mapIdx fun i p => (t.last + 1 + (i : Handle), p)
  dense : outcome.2.inodes.Dense
  visited : (Visit.Succeed visits ∧ visits.length = paths.length) ∨ ∃ f, Visit.EndWith visits f
  succeeds : Visit.Succeed visits → ∃ l, outcome.1 = .ok l ∧
    List.Forall₂ (g.IsEntry outcome.2.inodes) (Visit.told paths visits) l
  fails : ∀ f, Visit.EndWith visits f → outcome.1 = .error (restate f)

section List

variable {w : World σ} {h : Handle} {p : Path} {y x : σ} {texts : List String} {paths : List Path}

/-- An operation that is observed ends as its body does, and leaves the same table. -/
theorem answer_run {α : Type} (operation : Operation) (context : Journal.Fields) (body : Act σ α)
    (w : World σ) :
    ((run operation context body).answer w).1 = (body.answer w).1.mapError restate ∧
      ((run operation context body).answer w).2.inodes = (body.answer w).2.inodes := by
  rw [run, Call.answer_of]
  rcases body.answer w with ⟨f | a, v⟩
  · exact ⟨rfl, rfl⟩
  · exact ⟨rfl, rfl⟩

/-- A listing of a directory is that of the children which the backend tells of it. -/
theorem answer_list (hw : w.inodes.Dense) (hp : pathFor w.inodes h = .ok p)
    (hopen : g.backend.openSession.answer w.backend = (.ok s, y))
    (hlist : (g.backend.list s p.toText).answer y = (.ok texts, x))
    (spelled : List.Forall₂ (fun text p => Path.ofText text = .ok p) texts paths) :
    let visits := (g.visits s texts x).1
    ((g.list h).answer w).2.inodes = w.inodes.sightAll (Visit.seen paths visits) ∧
      g.Lists w.inodes paths visits ((g.list h).answer w) := by
  intro visits
  obtain ⟨outcome_eq, table_eq⟩ := answer_run .list [handleField h] (do
    let p ← resolve h
    Act.withSession g.backend fun s => do
      let children ← Act.call (g.backend.list s p.toText)
      g.entries s children) w
  rw [← list] at outcome_eq table_eq
  simp only [Call.answer_bind, resolve, Act.look, Act.answer_table, hp, Except.mapError,
    Act.answer_withSession, Act.answer_call, hopen, hlist, World.inodes_afterRelease]
    at outcome_eq table_eq
  obtain ⟨table, yields⟩ :=
    answer_entries (g := g) (s := s) spelled (w := { w with backend := x }) hw
  rw [← table_eq] at table
  refine ⟨table, ?_, ?_, ?_, ?_, ?_⟩
  · rw [table]
    exact hw.entries_sightAll _
  · rw [table]
    exact hw.sightAll _
  · rcases g.visits_cases s texts x with ⟨succeed, length⟩ | fails
    · exact .inl ⟨succeed, length.trans spelled.length_eq⟩
    · exact .inr fails
  · intro succeed
    obtain ⟨l, hl, rows⟩ := yields.of_succeed succeed
    refine ⟨l, ?_, ?_⟩
    · rw [outcome_eq, hl]
    · rw [table_eq]
      exact rows
  · intro f endWith
    rw [outcome_eq, yields.of_endWith endWith]

theorem IsEntry.unique {t : Inodes} (ht : t.Coherent) {child : Path × Metadata × Nat}
    {e e' : DirectoryEntry} (he : g.IsEntry t child e) (he' : g.IsEntry t child e') : e = e' := by
  obtain ⟨hname, registered, hattributes⟩ := he
  obtain ⟨hname', registered', hattributes'⟩ := he'
  have handle : e'.handle = e.handle := ht.handle_unique registered registered'
  rw [handle, ← hattributes] at hattributes'
  cases e
  cases e'
  simp_all

/-- If the backend answers a second time as it did, so does the listing, and no handle is given. -/
theorem Lists.again {w₂ : World σ} {visits : List Visit}
    {outcome : Except Failure (List DirectoryEntry) × World σ}
    (table : outcome.2.inodes = w.inodes.sightAll (Visit.seen paths visits))
    (lists : g.Lists w.inodes paths visits outcome) (hw : w.inodes.Dense)
    (hp : pathFor w.inodes h = .ok p) (same : w₂.inodes = outcome.2.inodes)
    (succeed : Visit.Succeed visits)
    (hopen : g.backend.openSession.answer w₂.backend = (.ok s, y))
    (hlist : (g.backend.list s p.toText).answer y = (.ok texts, x))
    (spelled : List.Forall₂ (fun text p => Path.ofText text = .ok p) texts paths)
    (hvisits : (g.visits s texts x).1 = visits) :
    ((g.list h).answer w₂).1 = outcome.1 ∧ ((g.list h).answer w₂).2.inodes = outcome.2.inodes := by
  have dense : w₂.inodes.Dense := same ▸ lists.dense
  have registered : (h, p) ∈ w₂.inodes.entries := by
    rw [same, table]
    exact (w.inodes.entries_prefix_sightAll _).subset ((pathFor_iff hw.coherent).mp hp)
  obtain ⟨table₂, lists₂⟩ :=
    answer_list dense ((pathFor_iff dense.coherent).mpr registered) hopen hlist spelled
  rw [hvisits] at table₂ lists₂
  have unchanged : ((g.list h).answer w₂).2.inodes = outcome.2.inodes := by
    rw [table₂, same]
    refine Inodes.Dense.sightAll_of_registered lists.dense.coherent fun q hq => ?_
    rw [table]
    exact hw.registered_sightAll hq
  obtain ⟨l, hl, rows⟩ := lists.succeeds succeed
  obtain ⟨l₂, hl₂, rows₂⟩ := lists₂.succeeds succeed
  rw [unchanged] at rows₂
  have unique : Relator.RightUnique (g.IsEntry outcome.2.inodes) :=
    fun _ _ _ => IsEntry.unique lists.dense.coherent
  obtain rfl : l = l₂ := List.right_unique_forall₂' unique rows rows₂
  exact ⟨hl₂.trans hl.symm, unchanged⟩

end List

variable {w : World σ} {root : String}

/-- A gateway was opened over any backend and used in any way, and nobody wrote into its table past
it.  A directory is listed whose children the backend tells of in any spelling, some of them perhaps
more than once: the outcome is that of the visits to them.  Listed a second time, with the same
answers of the backend, the entries are the same and the table stays as it is. -/
theorem OpenedAt.afterSteps_lists (opened : g.OpenedAt root w) {steps : List (Step σ)}
    (hsteps : ∀ step ∈ steps, ¬ step.Plants) {h : Handle} {p : Path} {y x : σ}
    {texts : List String} {paths : List Path}
    (registered : (h, p) ∈ (g.afterSteps w steps).inodes.entries)
    (hopen : g.backend.openSession.answer (g.afterSteps w steps).backend = (.ok s, y))
    (hlist : (g.backend.list s p.toText).answer y = (.ok texts, x))
    (spelled : List.Forall₂ (fun text p => Path.ofText text = .ok p) texts paths) :
    let visits := (g.visits s texts x).1
    let outcome := (g.list h).answer (g.afterSteps w steps)
    g.Lists (g.afterSteps w steps).inodes paths visits outcome ∧
      (Visit.Succeed visits → ∀ (w₂ : World σ) (s₂ : Session) (y₂ x₂ : σ),
        w₂.inodes = outcome.2.inodes →
        g.backend.openSession.answer w₂.backend = (.ok s₂, y₂) →
        (g.backend.list s₂ p.toText).answer y₂ = (.ok texts, x₂) →
        (g.visits s₂ texts x₂).1 = visits →
        ((g.list h).answer w₂).1 = outcome.1 ∧
          ((g.list h).answer w₂).2.inodes = outcome.2.inodes) := by
  intro visits outcome
  have dense := (opened.denseAt.afterSteps hsteps).dense
  have hp : pathFor (g.afterSteps w steps).inodes h = .ok p :=
    (pathFor_iff dense.coherent).mpr registered
  obtain ⟨table, lists⟩ := answer_list dense hp hopen hlist spelled
  refine ⟨lists, fun succeed w₂ s₂ y₂ x₂ same hopen₂ hlist₂ hvisits => ?_⟩
  exact lists.again table dense hp same succeed hopen₂ hlist₂ spelled hvisits

/-- Two files are placed in the root, and the first one is wanted to be missing. -/
def haunting : List (Step Memory) :=
  [.change fun m => ((Memory.seed "/b" .file 3 none).answer m).2,
    .change fun m => ((Memory.seed "/a" .file 5 none).answer m).2,
    .change fun m => ((Memory.failOn "/b" .notFound).answer m).2]

/-- The file that is missing has no entry and gets no handle. -/
theorem overMemory_lists :
    let w := overMemory.afterSteps openTree haunting
    ∃ paths visits, paths.map Path.toText = ["/b", "/a"] ∧ Visit.Succeed visits ∧
      visits.map Visit.sees = [false, true] ∧
      overMemory.Lists w.inodes paths visits ((overMemory.list 1).answer w) ∧
      ((overMemory.list 1).answer w).2.inodes.size = 2 := by
  intro w
  obtain ⟨b, hb, hbText⟩ := Spelling.ofText_of_normalize
    (show Spelling.normalize "/b" = .ok "/b" by decide +kernel)
  obtain ⟨a, ha, haText⟩ := Spelling.ofText_of_normalize
    (show Spelling.normalize "/a" = .ok "/a" by decide +kernel)
  have noPlants : ∀ step ∈ haunting, ¬ step.Plants := by simp [haunting, Step.Plants]
  have registered : (1, Path.root) ∈ w.inodes.entries := by decide +kernel
  obtain ⟨y, hopen⟩ : ∃ y, Memory.backend.openSession.answer w.backend = (.ok 1, y) :=
    ⟨_, Prod.ext (ok_of_toOption (by decide +kernel)) rfl⟩
  obtain ⟨x, hlist⟩ : ∃ x, (Memory.backend.list 1 Path.root.toText).answer y =
      (.ok ["/b", "/a"], x) := by
    obtain rfl := congrArg Prod.snd hopen
    exact ⟨_, Prod.ext (ok_of_toOption (by decide +kernel)) rfl⟩
  obtain ⟨lists, -⟩ := overMemory_openedAt.afterSteps_lists noPlants registered hopen hlist
    (.cons hb (.cons ha .nil))
  have visited : (overMemory.visits 1 ["/b", "/a"] x).1.map (fun v => (v.failure?.isSome, v.sees)) =
      [(false, false), (false, true)] := by
    obtain rfl := congrArg Prod.snd hopen
    obtain rfl := congrArg Prod.snd hlist
    decide +kernel
  refine ⟨[b, a], _, by simp [hbText, haText], ?_, ?_, lists, by decide +kernel⟩
  · intro v hv
    have hmem := List.mem_map_of_mem (f := fun v : Visit => (v.failure?.isSome, v.sees)) hv
    rw [visited] at hmem
    have hnone : v.failure?.isSome = false := by
      rcases List.mem_cons.mp hmem with heq | hmem
      · exact congrArg Prod.fst heq
      · exact congrArg Prod.fst (List.mem_singleton.mp hmem)
    exact Option.isSome_eq_false_iff.mp hnone |> Option.isNone_iff_eq_none.mp
  · have sees := congrArg (List.map Prod.snd) visited
    rw [List.map_map] at sees
    exact sees

end Gateway

end InodeGateway
