import InodeGateway.Proofs.Gateway.Density
import InodeGateway.Proofs.Inodes.Ancestry
import InodeGateway.Proofs.Memory.Children

/-!
# Handles stay within the root

Over a backend that lists immediate children only, the table grows from the root downwards: whatever
clients ask, every path in it lies within the root, and its parent was registered before it.  So no
handle that is answered leads out of the root, and going up never registers anything.

## Main definitions

* `Backend.ListsChildren` — listings tell of immediate children only
* `Gateway.Preserves` — a property of what lies behind a gateway that its calls keep
* `Gateway.Confined` — what clients see of a gateway that stays within its root

## Main statements

* `Gateway.afterSteps_confined` — over such a backend every run is confined, and the backend in
  memory is one
-/

namespace InodeGateway

variable {σ : Type}

/-- In the states where `P` holds, a listing tells of immediate children only, in any spelling. -/
def Backend.ListsChildren (b : Backend σ) (P : σ → Prop) : Prop :=
  ∀ state, P state → ∀ s (p : Path) texts, ((b.list s p.toText).answer state).1 = .ok texts →
    ∀ text ∈ texts, ∃ n, Path.ofText text = .ok (p.child n)

/-- The backend in memory lists immediate children only, in every state that can be reached. -/
theorem Memory.listsChildren : backend.ListsChildren Reachable :=
  fun _ hm _ _ _ hlist _ htext => hm.exists_child_of_list hlist htext

namespace Gateway

variable {g : Gateway σ} {P : σ → Prop} {w : World σ} {root : String}

/-- The calls of the gateway keep a property of what lies behind it. -/
def Preserves (g : Gateway σ) (P : σ → Prop) : Prop :=
  ∀ {α : Type} {c : Call σ α}, g.Makes c → ∀ state, P state → P (c.answer state).2

/-- A dense table that has grown from the root downwards, over a backend in a state of `P`. -/
structure WithinRoot (g : Gateway σ) (P : σ → Prop) (b : σ) (t : Inodes) : Prop where
  denseAt : g.DenseAt t
  closed : t.ClosedUnder g.rootPath
  behind : P b

/-- Registered paths, their children and their parents may be sighted; and the backend lists nothing
else. -/
theorem contract_withinRoot (promise : g.backend.ListsChildren P) (kept : g.Preserves P) :
    g.Contract (g.WithinRoot P) (fun _ _ => True) Inodes.Near where
  explains := g.explains_true
  coherent ht := ht.denseAt.dense.coherent
  rooted ht := ht.denseAt.rooted
  call hc _ _ ht := ⟨ht.denseAt, ht.closed, kept hc _ ht.behind⟩
  sight {b t p} ht hp := by
    have dense := (contract_denseAt (E := fun _ _ => True) g.explains_true).sight (b := b) (p := p)
      ht.denseAt trivial
    exact ⟨⟨dense.1, ht.closed.sightPath ht.denseAt.dense hp, ht.behind⟩, dense.2⟩
  grows grown hp := hp.grows grown
  child _ hmem n := .inr ⟨_, _, n, hmem, rfl⟩
  parent ht hmem hne hparent _ := by
    obtain ⟨k, hk, -⟩ := ht.closed.parent_registered hmem hne hparent
    exact .inl ⟨k, hk⟩
  listed ht hmem s texts hlist text htext p hp := by
    obtain ⟨n, hn⟩ := promise _ ht.behind s _ texts hlist text htext
    rw [hp] at hn
    cases hn
    exact .inr ⟨_, _, n, hmem, rfl⟩

/-- Going up from a registered path finds a registered one, so that the table stays as it is. -/
theorem leaves_parentHandle {t : Inodes} (ht : g.DenseAt t) (closed : t.ClosedUnder g.rootPath)
    {h : Handle} {p : Path} (hmem : (h, p) ∈ t.entries) : Act.Leaves t (g.parentHandle p) := by
  unfold parentHandle
  split
  · exact .pure _
  · next hne =>
    cases hparent : p.parent? with
    | none => exact .pure _
    | some q =>
      simp only
      split
      · -- The parent is in the table already, so that nothing is drawn for it.
        obtain ⟨k, hk, -⟩ := closed.parent_registered hmem hne hparent
        have known := Inodes.sightPath_of_some (ht.dense.coherent.handleGet?_iff.mpr hk)
        refine .explain (.table fun _ t' ht' => ?_)
        subst ht'
        rw [known]
        exact ⟨fun _ _ => rfl, fun _ _ => rfl⟩
      · exact .pure _

/-- Looking up what a handle stands for leaves the table as it is. -/
theorem leaves_resolve (h : Handle) {t : Inodes} (ht : t.Coherent) :
    Act.Triple (fun _ t' => t' = t) (resolve h : Act σ Path)
      (fun p _ t' => t' = t ∧ (h, p) ∈ t.entries) (fun _ _ t' => t' = t) := by
  refine .look fun _ t' ht' => ?_
  subst ht'
  exact ⟨fun p hp => ⟨rfl, (pathFor_iff ht).mp hp⟩, fun _ _ => rfl⟩

/-- What clients see of a gateway that stays within its root. -/
structure Confined (g : Gateway σ) (w : World σ) : Prop where
  /-- Every path in the table lies within the root. -/
  within : ∀ h p, (h, p) ∈ w.inodes.entries → Spelling.isWithin g.rootPath.toText p.toText
  /-- The parent of every path but the root is registered, with a smaller handle. -/
  parents : ∀ h p, (h, p) ∈ w.inodes.entries → p ≠ g.rootPath →
    ∃ parent k, Spelling.parent p.toText = .ok (some parent) ∧
      w.inodes.handleOf parent = .ok (some k) ∧ k < h
  /-- No answer tells a handle that leads out of the root. -/
  answers : ∀ r answer w', (g.perform r).answer w = (.ok answer, w') → ∀ h ∈ answer.handles,
    ∃ p, pathFor w'.inodes h = .ok p ∧ Spelling.isWithin g.rootPath.toText p.toText
  /-- Asking for the directory above registers nothing. -/
  parentOf : ∀ h, (g.after w (.parentOf h)).inodes = w.inodes
  /-- Looking up the name of the directory above registers nothing. -/
  lookup : ∀ h, (g.after w (.lookup h "..")).inodes = w.inodes

/-- A step that writes nothing into the table past the gateway and keeps a property of what lies
behind it. -/
def Step.Respects (P : σ → Prop) : Step σ → Prop
  | .request _ => True
  | .change f => ∀ b, P b → P (f b)
  | .plant _ _ => False

namespace WithinRoot

/-- Asking for the directory above, by either request, leaves the table as it is. -/
theorem up_leaves_table (ht : g.WithinRoot P w.backend w.inodes) (h : Handle) :
    (g.after w (.parentOf h)).inodes = w.inodes ∧
      (g.after w (.lookup h "..")).inodes = w.inodes := by
  have upward : Act.Leaves w.inodes (do g.parentHandle (← resolve h)) := by
    refine Act.Triple.bind (leaves_resolve h ht.denseAt.dense.coherent) fun p => ?_
    exact .assuming fun hmem => leaves_parentHandle ht.denseAt ht.closed hmem
  have asked : ∀ operation context, Act.Leaves w.inodes
      (Answer.handle <$> run operation context do g.parentHandle (← resolve h)) :=
    fun _ _ => .map (run_triple (fun _ _ _ ht' => ht') upward)
  exact ⟨(asked _ _).ends (w := w) rfl, (asked _ _).ends (w := w) rfl⟩

theorem confined (ht : g.WithinRoot P w.backend w.inodes) (promise : g.backend.ListsChildren P)
    (kept : g.Preserves P) : g.Confined w := by
  have coherent := ht.denseAt.dense.coherent
  refine ⟨fun h p hmem => ?_, fun h p hmem hne => ?_, fun r answer w' heq h hh => ?_,
    fun h => (ht.up_leaves_table h).1, fun h => (ht.up_leaves_table h).2⟩
  · rw [Spelling.isWithin_toText]
    exact ht.closed.within h p hmem
  · obtain ⟨k, q, hparent, hk, hlt⟩ := ht.closed.parents h p hmem hne
    refine ⟨q.toText, k, by rw [Spelling.parent_toText, hparent]; rfl, ?_, hlt⟩
    exact coherent.handleOf_iff.mpr ⟨q, Path.ofText_toText q, hk⟩
  · have ends := (contract_withinRoot promise kept).perform_triple r w ht
    rw [heq] at ends
    obtain ⟨after, registered⟩ := ends
    obtain ⟨p, hmem⟩ := registered h hh
    refine ⟨p, (pathFor_iff after.denseAt.dense.coherent).mpr hmem, ?_⟩
    rw [Spelling.isWithin_toText]
    exact after.closed.within h p hmem

end WithinRoot

theorem OpenedAt.withinRoot (opened : g.OpenedAt root w) (hw : P w.backend) :
    g.WithinRoot P w.backend w.inodes := by
  refine ⟨opened.denseAt, ?_, hw⟩
  rw [opened.inodes_eq.2]
  exact Inodes.ClosedUnder.of_root (Inodes.entries_mounted g.rootPath)

/-- Over a backend that lists immediate children only, whatever clients ask and whatever fails, the
gateway stays within its root.  The backend in memory is such a backend in every state that can be
reached. -/
theorem afterSteps_confined :
    (∀ {σ : Type} {g : Gateway σ} {root : String} {w : World σ} {P : σ → Prop},
      g.OpenedAt root w → P w.backend → g.backend.ListsChildren P → g.Preserves P →
      ∀ steps : List (Step σ), (∀ step ∈ steps, step.Respects P) →
      g.Confined (g.afterSteps w steps)) ∧
    Memory.backend.ListsChildren Memory.Reachable := by
  refine ⟨?_, Memory.listsChildren⟩
  intro σ g root w P opened hw promise kept steps hsteps
  have contract := contract_withinRoot promise kept
  refine (contract.afterSteps (opened.withinRoot hw) fun step hstep => ?_).confined promise kept
  have respects := hsteps step hstep
  cases step with
  | request r => trivial
  | change f => exact fun b t ht => ⟨ht.denseAt, ht.closed, respects b ht.behind⟩
  | plant h text => exact respects.elim

/-- What a gateway over a tree in memory calls leads from one reachable state to the next. -/
theorem preserves_reachable (directory : Identity.Directory) (permissions : PermissionModel)
    (rootPath : Path) :
    Preserves ⟨Memory.backend, directory, permissions, rootPath⟩ Memory.Reachable := by
  intro α c hc m hm
  cases hc with
  | openSession => exact hm.called .openSession
  | stat s path => exact hm.called (.stat s path)
  | permits s right path => exact hm.called (.permits s right path)
  | create s path kind => exact hm.called (.create s path kind)
  | list s path => exact hm.called (.list s path)
  | capacity h s =>
    cases h
    exact hm.called (.capacity s)
  | release s => exact hm.called (.release s)
  | identity owner => exact hm

/-- Over a tree in memory, an object that another client places beneath a directory is listed, and
the gateway stays within its root. -/
theorem overMemory_confined :
    overMemory.Confined (overMemory.afterSteps openTree
      [.change fun m => ((Memory.seed "/c/d" .file 1 none).answer m).2, .request (.list 1),
        .request (.lookup 2 "d"), .request (.lookup 3 "..")]) := by
  have start : Memory.Reachable newTree.backend := @Memory.Reachable.created _ _ _ [] _ rfl
  have opened : Memory.Reachable openTree.backend := (start.called .openSession).called (.release 0)
  refine afterSteps_confined.1 overMemory_openedAt opened Memory.listsChildren
    (preserves_reachable _ _ _) _ ?_
  refine List.forall_mem_cons.mpr ⟨fun m hm => hm.called (.seed "/c/d" .file 1 none), ?_⟩
  intro step hstep
  obtain rfl | rfl | rfl : step = .request (.list 1) ∨ step = .request (.lookup 2 "d") ∨
      step = .request (.lookup 3 "..") := by simpa using hstep
  all_goals trivial

end Gateway

end InodeGateway
