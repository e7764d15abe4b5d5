import InodeGateway.Proofs.Gateway.Beside

/-!
# What attributes are made of

All attributes that a gateway answers were made of descriptions by the backend.  What holds of the
descriptions holds of the attributes; over a tree in memory whose nodes and whose clock have times
that can be written, so do the attributes.

## Main definitions

* `Answer.shown` — the attributes that an answer tells
* `Gateway.Depicts` — in certain states, the backend depicts objects in a certain way
* `Memory.Dated` — all times of the tree are times

## Main statements

* `Gateway.perform_shows` — attributes are made of descriptions
* `Gateway.dated_besideTree` — the attributes of a dated tree are dated
-/

namespace InodeGateway

/-- The attributes that an answer tells. -/
def Answer.shown : Answer → List Attributes
  | .attributes a => [a]
  | .entries list => list.map DirectoryEntry.attributes
  | .granted _ | .handle _ | .statistics _ | .done => []

namespace Gateway

variable {σ : Type}

/-- In the states of `P`, objects are depicted as `V` says, and the calls of the gateway lead to no
other states. -/
structure Depicts (g : Gateway σ) (P : σ → Prop) (V : Metadata → Prop) : Prop where
  kept : g.Preserves P
  described : ∀ {s path b m}, P b → ((g.backend.stat s path).answer b).1 = .ok m → V m

/-- Attributes that are made of a description as `V` says. -/
def MadeOf (g : Gateway σ) (V : Metadata → Prop) (a : Attributes) : Prop :=
  ∃ h m userId, V m ∧ a = Attributes.shown g.permissions h m userId

namespace Depicts

variable {g : Gateway σ} {P : σ → Prop} {V : Metadata → Prop} (D : g.Depicts P V)
include D

theorem call_triple {α : Type} {c : Call σ α} (hc : g.Makes c) :
    Act.Triple (fun b _ => P b) (Act.call c) (fun _ b _ => P b) fun _ b _ => P b :=
  .call fun b _ hb => ⟨fun _ _ => D.kept hc b hb, fun _ _ => D.kept hc b hb⟩

theorem stat_triple (s : Session) (path : String) :
    Act.Triple (fun b _ => P b) (Act.call (g.backend.stat s path)) (fun m b _ => P b ∧ V m)
      fun _ b _ => P b := by
  refine .call fun b _ hb => ⟨fun m hm => ?_, fun _ _ => D.kept (.stat s path) b hb⟩
  exact ⟨D.kept (.stat s path) b hb, D.described hb hm⟩

theorem session_triple {α : Type} {body : Session → Act σ α} {Q : α → Prop}
    (hbody : ∀ s, Act.Triple (fun b _ => P b) (body s) (fun x _ _ => Q x) fun _ _ _ => True) :
    Act.Triple (fun b _ => P b) (Act.withSession g.backend body) (fun x _ _ => Q x)
      fun _ _ _ => True :=
  .withSession ((D.call_triple .openSession).weaken_fails fun _ _ _ _ => trivial) hbody
    (fun _ _ _ _ h => h) fun _ _ _ _ h => h

theorem ofMetadata_triple (h : Handle) {m : Metadata} (hm : V m) :
    Act.Triple (fun b _ => P b) (Attributes.ofMetadata g.identities g.permissions h m)
      (fun a b _ => P b ∧ g.MadeOf V a) fun _ _ _ => True := by
  have asked : Act.Triple (fun b _ => P b) (Attributes.askUserId g.identities m)
      (fun _ b _ => P b) fun _ _ _ => True := by
    refine .bind (.explain ((D.call_triple (.identity _)).weaken_fails fun _ _ _ _ => trivial))
      fun text => ?_
    cases text with
    | none => exact .fail fun _ _ _ => trivial
    | some text => exact .check fun _ _ hb => ⟨fun _ _ => hb, fun _ _ => trivial⟩
  refine .bind asked fun userId => .bind (.note _ _ _) fun _ => .pure fun _ _ hb => ?_
  exact ⟨hb, h, m, userId, hm, rfl⟩

theorem entries_triple (s : Session) (children : List String) :
    Act.Triple (fun b _ => P b) (g.entries s children)
      (fun list _ _ => ∀ e ∈ list, g.MadeOf V e.attributes) fun _ _ _ => True := by
  induction children with
  | nil => exact .pure fun _ _ _ => nofun
  | cons child rest ih =>
    have looked : Act.Triple (fun b _ => P b) (g.statOptional s child)
        (fun described b _ => P b ∧ ∀ m, described = some m → V m) fun _ _ _ => True := by
      have described := D.stat_triple s child
      refine .orMissing (.map (described.strengthen_post ?_)) (fun _ _ _ _ hb => ⟨hb, nofun⟩)
        fun _ _ _ _ _ => trivial
      rintro m b - ⟨hb, hm⟩
      exact ⟨hb, fun m' hm' => Option.some.inj hm' ▸ hm⟩
    refine .bind looked fun described => .assuming fun hdescribed => ?_
    cases described with
    | none => exact .bind (.note _ _ _) fun _ => ih
    | some m =>
      -- What later children do is of no concern to the entry of this one.
      refine .bind (M := fun _ b _ => P b) (.explain (.table fun _ _ hb =>
        ⟨fun _ _ => hb, fun _ _ => trivial⟩)) fun h => ?_
      refine .bind (M := fun _ b _ => P b) (.check fun _ _ hb =>
        ⟨fun _ _ => hb, fun _ _ => trivial⟩) fun name => ?_
      refine .bind (D.ofMetadata_triple h (hdescribed m rfl)) fun a => .assuming fun ha => ?_
      exact .bind ih fun list => .pure fun _ _ hlist => List.forall_mem_cons.mpr ⟨ha, hlist⟩

end Depicts

/-- Attributes are made of descriptions. -/
theorem perform_shows {g : Gateway σ} {P : σ → Prop} {V : Metadata → Prop} (D : g.Depicts P V)
    (r : Request) :
    Act.Triple (fun b _ => P b) (g.perform r) (fun answer _ _ => ∀ a ∈ answer.shown, g.MadeOf V a)
      fun _ _ _ => True := by
  have silent : ∀ {α : Type} (a : Act σ α) (answer : α → Answer), (∀ x, (answer x).shown = []) →
      Act.Triple (fun b _ => P b) (answer <$> a)
        (fun answer _ _ => ∀ a ∈ answer.shown, g.MadeOf V a) fun _ _ _ => True := by
    intro α a answer hsilent
    refine .map fun w _ => ?_
    rcases a.answer w with ⟨f | x, after⟩
    · exact trivial
    · simp [hsilent x]
  have resolved : ∀ h, Act.Triple (fun b _ => P b) (resolve h) (fun _ b _ => P b)
      fun _ _ _ => True := fun h => .look fun _ _ hb => ⟨fun _ _ => hb, fun _ _ => trivial⟩
  cases r with
  | getAttributes h =>
    have told : Act.Triple (fun b _ => P b) (g.getAttributes h) (fun a _ _ => g.MadeOf V a)
        fun _ _ _ => True := by
      refine run_triple (fun _ _ _ h => h)
        (.bind (resolved h) fun p => D.session_triple fun s => ?_)
      refine .bind ((D.stat_triple s _).weaken_fails fun _ _ _ _ => trivial) fun m =>
        .assuming fun hm => ?_
      exact (D.ofMetadata_triple h hm).strengthen_post fun _ _ _ h => h.2
    exact .map (told.strengthen_post fun a _ _ ha b hb => List.mem_singleton.mp hb ▸ ha)
  | list h =>
    have told : Act.Triple (fun b _ => P b) (g.list h)
        (fun list _ _ => ∀ e ∈ list, g.MadeOf V e.attributes) fun _ _ _ => True := by
      refine run_triple (fun _ _ _ h => h)
        (.bind (resolved h) fun p => D.session_triple fun s => ?_)
      refine .bind ((D.call_triple (.list s _)).weaken_fails fun _ _ _ _ => trivial)
        fun children => ?_
      exact D.entries_triple s children
    refine .map (told.strengthen_post fun list _ _ hlist a ha => ?_)
    obtain ⟨e, he, rfl⟩ := List.mem_map.mp ha
    exact hlist e he
  | checkAccess => exact silent _ _ fun _ => rfl
  | create => exact silent _ _ fun _ => rfl
  | lookup => exact silent _ _ fun _ => rfl
  | parentOf => exact silent _ _ fun _ => rfl
  | statistics => exact silent _ _ fun _ => rfl
  | commit => exact silent _ _ fun _ => rfl
  | unoffered => exact silent _ _ fun _ => rfl

/-- What is answered in a world shows attributes that are made of descriptions. -/
theorem shown_of_perform {g : Gateway σ} {P : σ → Prop} {V : Metadata → Prop} (D : g.Depicts P V)
    {w : World σ} (hw : P w.backend) {r : Request} {answer : Answer}
    (h : ((g.perform r).answer w).1 = .ok answer) : ∀ a ∈ answer.shown, g.MadeOf V a := by
  have ends := perform_shows D r w hw
  rcases heq : (g.perform r).answer w with ⟨f | x, after⟩ <;> rw [heq] at ends h
  · cases h
  · obtain rfl : x = answer := Except.ok.inj h
    exact ends

end Gateway

/-- A description with times that can be written. -/
def Metadata.Dated (m : Metadata) : Prop := m.createdAt ≠ .invalid ∧ m.modifiedAt ≠ .invalid

namespace Memory

variable {m : Memory}

/-- All times of a tree, and that of its clock, can be written. -/
structure Dated (m : Memory) : Prop where
  now : m.now ≠ .invalid
  nodes : ∀ p node, m.nodes.get? p = some node → (metadataOf p node).Dated

namespace Dated

theorem withSessions (h : m.Dated) (sessions : Sessions) : Dated { m with sessions := sessions } :=
  ⟨h.now, h.nodes⟩

/-- What is made gets the time of the clock, and so does the directory in which it is made. -/
theorem insert (h : m.Dated) (p : Path) (kind : Kind) (size : Num) (owner : Owner) :
    (m.insert p kind size owner).Dated := by
  refine ⟨?_, fun r node hnode => ?_⟩
  · have same : (m.insert p kind size owner).now = m.now := by
      unfold Memory.insert
      split <;> rfl
    rw [same]
    exact h.now
  · rw [get?_nodes_insert] at hnode
    split at hnode
    · cases hnode
      exact ⟨h.now, h.now⟩
    · split at hnode
      · obtain ⟨before, hbefore, rfl⟩ := Option.map_eq_some_iff.mp hnode
        have dated := h.nodes r before hbefore
        unfold link
        split
        · exact dated
        · exact ⟨dated.1, h.now⟩
      · exact h.nodes r node hnode

end Dated

end Memory

namespace Gateway

variable {ι : Type}

/-- A dated tree stays so, and its objects are described with their times. -/
theorem dated_besideTree (identities : Identity.Registry ι) (permissions : PermissionModel)
    (rootPath : Path) :
    (besideTree identities permissions rootPath).Depicts (fun b => b.storage.Dated)
      Metadata.Dated where
  kept := preserves_besideTree (fun _ sessions h => h.withSessions sessions)
    fun m p kind _ h => h.insert p kind 0 m.owner
  described {s path b d} hb hd := by
    have told : ((Memory.backend.stat s path).answer b.storage).1 = .ok d := hd
    obtain ⟨p, node, -, hnode, rfl⟩ := Memory.node_of_stat told
    exact hb.nodes p node hnode

end Gateway

end InodeGateway
