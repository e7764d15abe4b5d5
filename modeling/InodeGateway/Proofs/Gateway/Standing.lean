import InodeGateway.Proofs.Gateway.Footprint
import InodeGateway.Proofs.Gateway.Opening

/-!
# What has a handle stands

A gateway gives handles to objects that the backend described or made, and to what lies above them.
Over a backend that lets go of no object which it described or made, whatever has a handle stands,
whatever clients ask.

## Main definitions

* `Gateway.Attests` — what was described or made stands, and goes on standing
* `Gateway.Grounded` — everything that has a handle stands

## Main statements

* `Gateway.Attests.after` — every request keeps the table grounded
* `Gateway.OpenedAt.afterSteps_grounded` — so does every run of an open gateway
-/

namespace InodeGateway

variable {σ α : Type}

/-- A sighting registers the sighted path and no other. -/
theorem Inodes.mem_entries_of_sightPath {t : Inodes} {h : Handle} {p q : Path}
    (hmem : (h, q) ∈ (t.sightPath p).2.entries) : (h, q) ∈ t.entries ∨ q = p := by
  rcases t.sightPath_cases p with ⟨_, -, heq⟩ | ⟨-, free, -, heq⟩ | ⟨-, _, heq⟩ <;> rw [heq] at hmem
  · exact .inl hmem
  · rw [entries_add (t := t.draw.2) free, List.mem_append, List.mem_singleton] at hmem
    exact hmem.imp id (congrArg Prod.snd)
  · exact .inl hmem

namespace Gateway

variable {g : Gateway σ} {stands : Path → σ → Prop} {P : σ → Prop} {w : World σ} {root : String}

/-- What the backend described or made stands, and no call of the gateway makes anything fall. -/
structure Attests (g : Gateway σ) (stands : Path → σ → Prop) : Prop where
  kept : ∀ p, g.Preserves (stands p)
  described : ∀ {s text p x d}, Path.ofText text = .ok p →
    ((g.backend.stat s text).answer x).1 = .ok d → stands p ((g.backend.stat s text).answer x).2
  made : ∀ {s p kind x}, ((g.backend.create s p.toText kind).answer x).1 = .ok () →
    stands p ((g.backend.create s p.toText kind).answer x).2

/-- Every path in the table stands. -/
def Grounded (stands : Path → σ → Prop) : Assertion σ :=
  fun x t => ∀ h p, (h, p) ∈ t.entries → stands p x

/-- The text spells a path that stands, if it spells one. -/
def SpellsStanding (stands : Path → σ → Prop) (text : String) (x : σ) : Prop :=
  ∀ p, Path.ofText text = .ok p → stands p x

/-- The action keeps the table grounded, whatever its outcome. -/
abbrev Grounds (stands : Path → σ → Prop) (a : Act σ α) : Prop :=
  Act.Triple (Grounded stands) a (fun _ => Grounded stands) fun _ => Grounded stands

namespace Grounded

/-- A path that stands may be sighted. -/
theorem sightPath_triple (p : Path) :
    Act.Triple (fun x t => Grounded stands x t ∧ stands p x) (Gateway.sightPath p)
      (fun _ => Grounded stands) fun _ => Grounded stands := by
  refine .explain (.table fun x t ⟨grounded, hp⟩ => ?_)
  have kept : Grounded stands x (t.sightPath p).2 := by
    intro h q hmem
    rcases Inodes.mem_entries_of_sightPath hmem with hmem | rfl
    · exact grounded h q hmem
    · exact hp
  exact ⟨fun _ _ => kept, fun _ _ => kept⟩

theorem sight_triple (text : String) :
    Act.Triple (fun x t => Grounded stands x t ∧ SpellsStanding stands text x) (Gateway.sight text)
      (fun _ => Grounded stands) fun _ => Grounded stands := by
  cases hp : Path.ofText text with
  | error r =>
    refine .explain (.table fun x t ⟨grounded, _⟩ => ?_)
    have unread : t.sight text = (.error r, t) := by simp [Inodes.sight, hp]
    rw [unread]
    exact ⟨fun _ _ => grounded, fun _ _ => grounded⟩
  | ok p =>
    have same : (Gateway.sight text : Act σ Handle) = Gateway.sightPath p := by
      simp [Gateway.sight, Gateway.sightPath, Inodes.sight, hp]
    rw [same]
    exact (sightPath_triple p).weaken_pre fun _ _ ⟨grounded, spells⟩ => ⟨grounded, spells p hp⟩

theorem look {f : Inodes → Except Refusal α} : Grounds stands (Act.look f) :=
  .look fun _ _ h => ⟨fun _ _ => h, fun _ _ => h⟩

theorem check {r : Except Refusal α} : Grounds stands (Act.check r) :=
  .check fun _ _ h => ⟨fun _ _ => h, fun _ _ => h⟩

end Grounded

namespace Attests

variable (A : g.Attests stands)
include A

theorem call_triple {c : Call σ α} (hc : g.Makes c) : Grounds stands (Act.call c) := by
  have kept : ∀ x t, Grounded stands x t → Grounded stands (c.answer x).2 t :=
    fun x _ grounded h p hmem => A.kept p hc x (grounded h p hmem)
  exact .call fun x t hx => ⟨fun _ _ => kept x t hx, fun _ _ => kept x t hx⟩

/-- What was described stands. -/
theorem stat_triple (s : Session) (text : String) :
    Act.Triple (Grounded stands) (Act.call (g.backend.stat s text))
      (fun _ x t => Grounded stands x t ∧ SpellsStanding stands text x)
      fun _ => Grounded stands := by
  have kept : ∀ x t, Grounded stands x t →
      Grounded stands ((g.backend.stat s text).answer x).2 t :=
    fun x _ grounded h p hmem => A.kept p (.stat s text) x (grounded h p hmem)
  exact .call fun x t hx => ⟨fun _ hd => ⟨kept x t hx, fun _ hp => A.described hp hd⟩,
    fun _ _ => kept x t hx⟩

/-- What was made stands. -/
theorem create_triple (s : Session) (p : Path) (kind : Kind) :
    Act.Triple (Grounded stands) (Act.call (g.backend.create s p.toText kind))
      (fun _ x t => Grounded stands x t ∧ stands p x) fun _ => Grounded stands := by
  have kept : ∀ x t, Grounded stands x t →
      Grounded stands ((g.backend.create s p.toText kind).answer x).2 t :=
    fun x _ grounded h q hmem => A.kept q (.create s p.toText kind) x (grounded h q hmem)
  exact .call fun x t hx => ⟨fun _ hmade => ⟨kept x t hx, A.made hmade⟩, fun _ _ => kept x t hx⟩

/-- What was seen to stand within a session stands when that is released. -/
theorem session_triple {body : Session → Act σ α} {Q : σ → Prop} (hQ : g.Preserves Q)
    (hbody : ∀ s, Act.Triple (Grounded stands) (body s) (fun _ x t => Grounded stands x t ∧ Q x)
      fun _ => Grounded stands) :
    Act.Triple (Grounded stands) (Act.withSession g.backend body)
      (fun _ x t => Grounded stands x t ∧ Q x) fun _ => Grounded stands := by
  refine .withSession (A.call_triple .openSession) hbody ?_ ?_
  · rintro s _ x t ⟨grounded, hx⟩
    exact ⟨fun h p hmem => A.kept p (.release s) x (grounded h p hmem), hQ (.release s) x hx⟩
  · intro s _ x t grounded h p hmem
    exact A.kept p (.release s) x (grounded h p hmem)

theorem ofMetadata_grounds (h : Handle) (m : Metadata) :
    Grounds stands (Attributes.ofMetadata g.identities g.permissions h m) := by
  have asked : Grounds stands (Attributes.askUserId g.identities m) := by
    refine .bind (.explain (A.call_triple (.identity _))) fun text => ?_
    cases text with
    | none => exact .fail fun _ _ h => h
    | some text => exact Grounded.check
  exact .bind asked fun _ => .bind (.note _ _ _) fun _ => .pure fun _ _ h => h

/-- A child gets a handle only if it was described. -/
theorem entries_grounds (s : Session) (children : List String) :
    Grounds stands (g.entries s children) := by
  induction children with
  | nil => exact .pure fun _ _ h => h
  | cons child rest ih =>
    have looked : Act.Triple (Grounded stands) (g.statOptional s child)
        (fun described x t => Grounded stands x t ∧
          (described ≠ none → SpellsStanding stands child x)) fun _ => Grounded stands :=
      .orMissing (.map ((A.stat_triple s child).strengthen_post
        fun _ _ _ ⟨grounded, spells⟩ => ⟨grounded, fun _ => spells⟩))
        (fun _ _ _ _ grounded => ⟨grounded, fun h => absurd rfl h⟩) fun _ _ _ _ grounded => grounded
    refine .bind looked fun described => ?_
    cases described with
    | none => exact .bind (.note _ _ _) fun _ => ih.weaken_pre fun _ _ h => h.1
    | some m =>
      refine .bind ((Grounded.sight_triple child).weaken_pre fun _ _ ⟨grounded, spells⟩ =>
        ⟨grounded, spells (Option.some_ne_none m)⟩) fun h => ?_
      refine .bind Grounded.check fun name => .bind (A.ofMetadata_grounds h m) fun _ => ?_
      exact .bind ih fun _ => .pure fun _ _ h => h

theorem list_grounds (h : Handle) : Grounds stands (g.list h) := by
  refine run_triple (fun _ _ _ h => h) (.bind Grounded.look fun p => ?_)
  refine (A.session_triple (Q := fun _ => True) (fun _ _ _ => trivial) fun s =>
    .bind (A.call_triple (.list s _)) fun children => ?_).strengthen_post fun _ _ _ h => h.1
  exact (A.entries_grounds s children).strengthen_post fun _ _ _ h => ⟨h, trivial⟩

theorem create_grounds (parent : Handle) (name kind : String) (owner : Principal) (mode : Num) :
    Grounds stands (g.create parent name kind owner mode) := by
  refine run_triple (fun _ _ _ h => h) (.bind Grounded.check fun wanted => ?_)
  refine .bind Grounded.look fun p => .bind (.note _ _ _) fun _ => ?_
  refine .bind (A.session_triple (A.kept (p.child wanted.name)) fun s =>
    A.create_triple s _ wanted.kind) fun _ => ?_
  refine .bind (Grounded.sightPath_triple _) fun h => ?_
  exact .bind (.note _ _ _) fun _ => .bind (.note _ _ _) fun _ => .pure fun _ _ h => h

/-- A name that is looked up gets a handle only if its object was described. -/
theorem lookup_grounds (parent : Handle) {name : String} (hname : name ≠ "..") :
    Grounds stands (g.lookup parent name) := by
  refine run_triple (fun _ _ _ h => h) (.bind Grounded.look fun p => ?_)
  split
  · exact .pure fun _ _ h => h
  · refine .bind Grounded.check fun n => ?_
    refine .bind (A.session_triple (A.kept (p.child n)) fun s =>
      (A.stat_triple s _).strengthen_post fun _ _ _ ⟨grounded, spells⟩ =>
        ⟨grounded, spells _ (Path.ofText_toText _)⟩) fun _ => ?_
    exact Grounded.sightPath_triple _

/-- A request that leaves the table as it is keeps it grounded. -/
theorem after_of_inodes_eq {r : Request} (h : (g.after w r).inodes = w.inodes)
    (hw : Grounded stands w.backend w.inodes) :
    Grounded stands (g.after w r).backend (g.after w r).inodes := by
  intro k p hmem
  rw [h] at hmem
  exact Preserves.after (A.kept p) (hw k p hmem) r

/-- Every request keeps the table grounded.  What lies above an object has its handle already. -/
theorem after (within : g.WithinRoot P w.backend w.inodes)
    (hw : Grounded stands w.backend w.inodes) (r : Request) :
    Grounded stands (g.after w r).backend (g.after w r).inodes := by
  cases hr : r.sights with
  | false => exact A.after_of_inodes_eq ((leaves_perform g w.inodes r hr).ends (w := w) rfl) hw
  | true =>
    cases r with
    | create parent name kind owner mode =>
      have kept : Grounds stands (g.perform (.create parent name kind owner mode)) :=
        .map (A.create_grounds parent name kind owner mode)
      exact kept.ends hw
    | list h =>
      have kept : Grounds stands (g.perform (.list h)) := .map (A.list_grounds h)
      exact kept.ends hw
    | lookup parent name =>
      by_cases hname : name = ".."
      · subst hname
        exact A.after_of_inodes_eq (within.up_leaves_table parent).2 hw
      · have kept : Grounds stands (g.perform (.lookup parent name)) :=
          .map (A.lookup_grounds parent hname)
        exact kept.ends hw
    | parentOf h => exact A.after_of_inodes_eq (within.up_leaves_table h).1 hw
    | _ => cases hr

/-- A gateway is opened only if its root was described. -/
theorem stands_root (opened : g.OpenedAt root w) : stands g.rootPath w.backend := by
  obtain ⟨b, identities, permissions, start, hempty, heq⟩ := opened
  have goes := (mount_opening b identities permissions root hempty).1
  rw [establish_eq_map, Call.answer_map] at heq
  obtain ⟨hg, rfl⟩ := Prod.mk.inj heq
  obtain ⟨p, hp, rfl⟩ := ok_of_map hg
  rw [hp] at goes
  obtain ⟨s, y, m, z, v, hstat, hpermits, left⟩ := goes.looked_at
  rw [left]
  -- The root stands since it was described; the calls that follow do not change that.
  have described : stands p z := by
    have stood := A.described (Path.ofText_toText p) (congrArg Prod.fst hstat)
    rwa [show (b.stat s p.toText).answer y = _ from hstat] at stood
  have asked : stands p v := by
    have stood := A.kept p (.permits s .read p.toText) z described
    rwa [show (b.permits s .read p.toText).answer z = _ from hpermits] at stood
  exact A.kept p (.release s) v asked

end Attests

/-- Over a backend that lists immediate children only, whatever happens to an open gateway keeps its
table grounded, as long as nobody writes into it past the gateway and nothing that stands falls. -/
theorem OpenedAt.afterSteps_grounded (A : g.Attests stands) (opened : g.OpenedAt root w)
    (hw : P w.backend) (promise : g.backend.ListsChildren P) (kept : g.Preserves P)
    {steps : List (Step σ)} (hsteps : ∀ step ∈ steps, step.Respects P)
    (standing : ∀ step ∈ steps, ∀ p, step.Respects (stands p)) :
    g.WithinRoot P (g.afterSteps w steps).backend (g.afterSteps w steps).inodes ∧
      Grounded stands (g.afterSteps w steps).backend (g.afterSteps w steps).inodes := by
  have grounded : Grounded stands w.backend w.inodes := by
    intro h p hmem
    rw [opened.inodes_eq.2, Inodes.entries_mounted, List.mem_singleton] at hmem
    cases hmem
    exact A.stands_root opened
  have contract := contract_withinRoot promise kept
  have within := opened.withinRoot hw
  clear opened hw
  induction steps generalizing w with
  | nil => exact ⟨within, grounded⟩
  | cons step rest ih =>
    obtain ⟨respects, hrest⟩ := List.forall_mem_cons.mp hsteps
    obtain ⟨keeps, hkeeps⟩ := List.forall_mem_cons.mp standing
    refine ih hrest hkeeps ?_ ?_
    · cases step with
      | request r => exact A.after within grounded r
      | change f => exact fun h p hmem => keeps p _ (grounded h p hmem)
      | plant h text => exact respects.elim
    · cases step with
      | request r => exact contract.after within r
      | change f => exact ⟨within.denseAt, within.closed, respects _ within.behind⟩
      | plant h text => exact respects.elim

end Gateway

end InodeGateway
