import InodeGateway.Proofs.Gateway.Exchanges
import InodeGateway.Proofs.Gateway.Permanence
import InodeGateway.Proofs.Gateway.Reporting
import InodeGateway.Proofs.Gateway.Visits
import InodeGateway.Proofs.Inodes.Occupied
import InodeGateway.Proofs.Path.Order

/-!
# Going up

From every handle within the root, a client who asks for parents again and again reaches the root
after as many steps as the path is deep, and stays there; from a handle outside of the root, the
first step leads to it.  Parents that have no handle yet get one on the way, and the only thing that
can go wrong is that this handle is occupied.  The backend is not asked.

## Main definitions

* `Gateway.climb` — going up so many times
* `Gateway.Climbs` — what going up from a path within the root comes to
* `Gateway.Ascends` — what clients who go up see

## Main statements

* `Gateway.OpenedAt.afterSteps_rootedAt` — in every state the root has its handle, and the counter
  is there or beyond
* `Gateway.climbs` — going up, by induction on the number of times
* `Gateway.OpenedAt.afterSteps_ascends` — so it is in every state of an open gateway
-/

namespace InodeGateway.Gateway

variable {σ : Type} {g : Gateway σ} {w : World σ} {h : Handle} {p q : Path} {root : String}

/-- Nothing but the table itself is needed to keep the root at its handle: any path may be sighted,
and the backend may answer what it likes.  A sighting that fails is put as a collision. -/
theorem contract_rootedAt {E : Failure → σ → Prop} (X : g.Explains E)
    (collisions : ∀ (r : Refusal) b, E (collision r.failure) b) :
    g.Contract (fun _ t => t.RootedAt g.rootPath) E (fun _ _ => True) where
  explains := X
  coherent ht := ht.coherent
  rooted ht := ht.rooted
  call _ _ _ ht := ht
  sight {b _ p} ht _ := ⟨ht.sightPath p, fun r _ => collisions r b⟩
  grows _ _ := trivial
  child _ _ _ := trivial
  parent _ _ _ _ _ := trivial
  listed _ _ _ _ _ _ _ _ _ := trivial

theorem OpenedAt.rootedAt (opened : g.OpenedAt root w) : w.inodes.RootedAt g.rootPath := by
  have rooted := opened.grownFrom.rooted
  have coherent := opened.grownFrom.coherent
  obtain ⟨-, hinodes⟩ := opened.inodes_eq
  refine ⟨coherent, rooted, ?_⟩
  rw [hinodes]
  exact Int.le_refl Handle.root

theorem OpenedAt.afterSteps_rootedAt (opened : g.OpenedAt root w) (steps : List (Step σ)) :
    (g.afterSteps w steps).inodes.RootedAt g.rootPath := by
  refine (contract_rootedAt g.explains_true fun _ _ => trivial).afterSteps opened.rootedAt
    fun step _ => ?_
  cases step with
  | request r => trivial
  | change f => exact fun _ _ ht => ht
  | plant h text => exact fun _ _ ht => ht.register h text

/-- What is found occupied although it is fresh is reported as a broken table. -/
theorem code?_collision_handleMapped (h : Handle) (path : String) :
    (restate (collision (Refusal.handleMapped h path).failure)).code? =
      some .internalInconsistency := by
  rw [restate_of_isOwn (isOwn_collision (Refusal.isOwn_failure _))]
  rfl

/-! ### One step up -/

/-- A step up ends as the search for the handle above does, and leaves the same table. -/
theorem answer_parentOf (hp : pathFor w.inodes h = .ok p) :
    ((g.parentOf h).answer w).1 = ((g.parentHandle p).answer w).1.mapError restate ∧
      ((g.parentOf h).answer w).2.inodes = ((g.parentHandle p).answer w).2.inodes := by
  have body : (resolve h >>= g.parentHandle).answer w = (g.parentHandle p).answer w := by
    rw [Call.answer_bind, resolve, Act.look, Act.answer_table, hp]
    rfl
  rw [← body]
  exact answer_run .parentOf [handleField h] _ w

/-- From the root, and from outside of it, a step up leads to the root. -/
theorem parentOf_of_top (hp : pathFor w.inodes h = .ok p)
    (top : p = g.rootPath ∨ ¬ g.rootPath.contains p) :
    ((g.parentOf h).answer w).1 = .ok Handle.root := by
  have stays : g.parentHandle p = pure Handle.root := by
    unfold parentHandle
    split
    · rfl
    · next hne =>
      have outside := top.resolve_left hne
      cases hq : p.parent? with
      | none => rfl
      | some q =>
        -- What lies outside has its parent outside.
        refine if_neg fun hin => outside ?_
        exact Path.contains_trans hin (Path.contains_of_parent?_eq hq)
  rw [(answer_parentOf hp).1, stays]
  rfl

/-- Below the root, a step up sights the parent. -/
theorem parentOf_of_below (hp : pathFor w.inodes h = .ok p) (within : g.rootPath.contains p)
    (hne : p ≠ g.rootPath) (hq : p.parent? = some q) :
    ((g.parentOf h).answer w).1 =
        ((w.inodes.sightPath q).1.mapError fun r => restate (collision r.failure)) ∧
      ((g.parentOf h).answer w).2.inodes = (w.inodes.sightPath q).2 := by
  have above := Path.contains_of_parent? within hne hq
  have sights : g.parentHandle p = sightPath q := by
    rw [parentHandle, if_neg hne, hq]
    exact if_pos above
  obtain ⟨outcome, table⟩ := answer_parentOf (g := g) hp
  rw [outcome, table, sights, sightPath, Act.answer_explain, Act.answer_table]
  refine ⟨?_, rfl⟩
  cases (w.inodes.sightPath q).1 <;> rfl

/-- A step up from below the root leads to a handle of the parent, unless the handle that is drawn
for it is occupied. -/
theorem parentOf_step (ht : w.inodes.RootedAt g.rootPath) (hp : pathFor w.inodes h = .ok p)
    (within : g.rootPath.contains p) (hne : p ≠ g.rootPath) (hq : p.parent? = some q) :
    (∃ a v, (g.parentOf h).answer w = (.ok a, v) ∧ (a, q) ∈ v.inodes.entries) ∨
    (w.inodes.Collides q ∧
      ∃ e, ((g.parentOf h).answer w).1 = .error e ∧ e.code? = some .internalInconsistency) := by
  obtain ⟨outcome, table⟩ := parentOf_of_below hp within hne hq
  rcases ht.mem_or_collides q with ⟨a, ha, hmem⟩ | collides
  · rw [ha] at outcome
    rw [← table] at hmem
    exact .inl ⟨a, _, Prod.ext outcome rfl, hmem⟩
  · obtain ⟨old, heq⟩ := ht.sightPath_collides collides
    rw [heq] at outcome
    exact .inr ⟨collides, _, outcome, code?_collision_handleMapped _ _⟩

/-! ### Going up several times -/

/-- Going up `k` times from a handle. -/
def climb (g : Gateway σ) : Nat → Handle → Act σ Handle
  | 0, h => pure h
  | k + 1, h => g.climb k h >>= g.parentOf

/-- What going up `k` times comes to, from a handle of a path that lies `d` names below the root: to
a handle of the path that is `k` above, which is the root's own after `d` times and not before;
unless a parent on the way is sighted under a handle that is occupied. -/
inductive Climbs (g : Gateway σ) (w : World σ) (h : Handle) (p : Path) (d k : Nat) : Prop where
  | arrives {a : Handle} {v : World σ} {q : Path} :
      (g.climb k h).answer w = (.ok a, v) → p.ancestor? k = some q → pathFor v.inodes a = .ok q →
      (a = Handle.root ↔ k = d) → Climbs g w h p d k
  | collides {j : Nat} {a : Handle} {v : World σ} {q : Path} {e : Failure} : j < k →
      (g.climb j h).answer w = (.ok a, v) → p.ancestor? (j + 1) = some q → v.inodes.Collides q →
      ((g.climb k h).answer w).1 = .error e → e.code? = some .internalInconsistency →
      Climbs g w h p d k

theorem climb_triple (g : Gateway σ) (k : Nat) (h : Handle) :
    Act.Triple (fun _ t => t.RootedAt g.rootPath) (g.climb k h)
      (fun _ _ t => t.RootedAt g.rootPath) (fun _ _ t => t.RootedAt g.rootPath) := by
  induction k with
  | zero => exact .pure fun _ _ ht => ht
  | succ k ih =>
    have contract := contract_rootedAt g.explains_true fun _ _ => trivial
    exact .bind ih fun a => (contract.parentOf_triple a).consequence
      (fun _ _ ht => ht) (fun _ _ _ ht => ht.1) fun _ _ _ ht => ht.1

/-- From depth `d` below the root, so many steps above stays within the root, is the root after `d`
of them, and has a parent before. -/
theorem ancestor_within {k d : Nat} (within : g.rootPath.contains p)
    (depth : p.depth = g.rootPath.depth + d) (hk : k ≤ d) (hq : p.ancestor? k = some q) :
    g.rootPath.contains q ∧ (q = g.rootPath ↔ k = d) ∧
      (k < d → ∃ r, q.parent? = some r ∧ p.ancestor? (k + 1) = some r) := by
  obtain ⟨above, depth'⟩ := Path.ancestor?_eq_some_iff.mp hq
  have top : q = g.rootPath ↔ k = d := by
    constructor
    · rintro rfl
      omega
    · rintro rfl
      have hroot := Path.ancestor?_eq_some_iff.mpr ⟨within, depth⟩
      exact Option.some.inj (hq.symm.trans hroot)
  refine ⟨?_, top, fun hlt => ?_⟩
  · rcases Path.contains_total within above with hin | hin
    · exact hin
    · -- Of two paths that contain one another and are as deep as that, one is the other.
      have hle := Path.depth_le_of_contains hin
      rw [top.mpr (by omega)]
      exact g.rootPath.contains_self
  · have hne : q ≠ .root := by
      rintro rfl
      have hzero : Path.root.depth = 0 := rfl
      omega
    obtain ⟨r, n, rfl⟩ := Path.exists_child_of_ne_root hne
    refine ⟨r, Path.parent?_child r n, Path.ancestor?_eq_some_iff.mpr ⟨?_, ?_⟩⟩
    · exact Path.contains_trans (Path.contains_child r.contains_self n) above
    · rw [depth', Path.depth_child]
      omega

/-- Going up within the root, by induction on the number of times. -/
theorem climbs (ht : w.inodes.RootedAt g.rootPath) (hp : pathFor w.inodes h = .ok p)
    (within : g.rootPath.contains p) {d : Nat} (depth : p.depth = g.rootPath.depth + d) :
    ∀ k ≤ d, g.Climbs w h p d k := by
  intro k
  induction k with
  | zero =>
    intro hk
    have hmem := (pathFor_iff ht.coherent).mp hp
    obtain ⟨-, top, -⟩ := ancestor_within within depth hk (q := p) rfl
    exact .arrives rfl rfl hp ((ht.eq_root_iff hmem).trans top)
  | succ k ih =>
    intro hk
    cases ih (Nat.le_of_succ_le hk) with
    | @collides j a v q e hj harrived hq hcollides hfails hcode =>
      refine .collides (Nat.lt_succ_of_lt hj) harrived hq hcollides (e := e) ?_ hcode
      rw [climb, Call.answer_bind]
      rcases heq : (g.climb k h).answer w with ⟨f | x, after⟩ <;> rw [heq] at hfails <;>
        cases hfails
      rfl
    | @arrives a v q harrived hq hv hroot =>
      have rooted : v.inodes.RootedAt g.rootPath := by
        have ends := climb_triple g k h w ht
        rwa [harrived] at ends
      obtain ⟨inside, top, parent⟩ := ancestor_within within depth (Nat.le_of_succ_le hk) hq
      obtain ⟨r, hr, hr'⟩ := parent hk
      have hne : q ≠ g.rootPath := fun heq => absurd (top.mp heq) (Nat.ne_of_lt hk)
      have goes_on : (g.climb (k + 1) h).answer w = (g.parentOf a).answer v := by
        rw [climb, Call.answer_bind, harrived]
      rcases parentOf_step rooted hv inside hne hr with ⟨b, u, hb, hmem⟩ | ⟨hcollides, e, he, hcode⟩
      · have rooted' : u.inodes.RootedAt g.rootPath := by
          have ends := climb_triple g (k + 1) h w ht
          rwa [goes_on, hb] at ends
        obtain ⟨-, top', -⟩ := ancestor_within within depth hk hr'
        exact .arrives (goes_on.trans hb) hr' ((pathFor_iff rooted'.coherent).mpr hmem)
          ((rooted'.eq_root_iff hmem).trans top')
      · exact .collides (Nat.lt_succ_self k) harrived hr' hcollides (goes_on ▸ he) hcode

/-! ### The name for the directory above -/

/-- To look up the name for the directory above is to ask for the parent. -/
theorem lookup_dots (g : Gateway σ) (w : World σ) (h : Handle) :
    ((g.lookup h "..").answer w).1 = ((g.parentOf h).answer w).1 ∧
      ((g.lookup h "..").answer w).2.inodes = ((g.parentOf h).answer w).2.inodes := by
  obtain ⟨outcome, table⟩ := answer_run .parentOf [handleField h] (resolve h >>= g.parentHandle) w
  obtain ⟨outcome', table'⟩ := answer_run .lookup [("parent", h.toText), ("name", "..")]
    (resolve h >>= g.parentHandle) w
  exact ⟨outcome'.trans outcome.symm, table'.trans table.symm⟩

/-- The search for the handle above changes nothing of what lies behind the gateway, under whatever
name it is asked for. -/
theorem upward_aside (operation : Operation) (context : Journal.Fields) (g : Gateway σ)
    (P : σ → Prop) (h : Handle) :
    Act.Triple (fun b _ => P b) (run operation context (resolve h >>= g.parentHandle))
      (fun _ b _ => P b) (fun _ b _ => P b) :=
  run_triple (fun _ _ _ hb => hb) ((Act.Triple.bind (Aside.resolve h)
    fun p => Aside.parentHandle g p).weaken_fails fun _ _ _ hf => hf.2)

/-- What changes nothing behind any gateway makes no call: it would have been written down. -/
theorem exchanges_eq_nil {r : Request}
    (aside : Act.Triple (fun b _ => b.2 = []) (g.followed.perform r) (fun _ b _ => b.2 = [])
      (fun _ b _ => b.2 = [])) : g.exchanges w r = [] :=
  aside.ends (w := w.following) rfl

/-! ### What clients see -/

/-- What clients see who go up. -/
structure Ascends (g : Gateway σ) (w : World σ) : Prop where
  /-- From the root and from outside of it, a step leads to the root. -/
  top : ∀ h p, pathFor w.inodes h = .ok p → (p = g.rootPath ∨ ¬ g.rootPath.contains p) →
    ((g.parentOf h).answer w).1 = .ok Handle.root
  /-- Above the root there is nothing but the root. -/
  stays : ((g.parentOf Handle.root).answer w).1 = .ok Handle.root
  /-- Within the root, each step leads to the parent, until the root is reached. -/
  climbs : ∀ h p d, pathFor w.inodes h = .ok p → g.rootPath.contains p →
    p.depth = g.rootPath.depth + d → ∀ k ≤ d, g.Climbs w h p d k
  /-- A step from a registered handle fails only if the parent has no handle and the next one is
  occupied, and then it reports a broken table. -/
  fails : ∀ h p e, pathFor w.inodes h = .ok p → ((g.parentOf h).answer w).1 = .error e →
    e.code? = some .internalInconsistency ∧ ∃ q, p.parent? = some q ∧ w.inodes.Collides q
  /-- The name for the directory above leads where a step leads. -/
  dots : ∀ h, ((g.lookup h "..").answer w).1 = ((g.parentOf h).answer w).1 ∧
    ((g.lookup h "..").answer w).2.inodes = ((g.parentOf h).answer w).2.inodes
  /-- No session is opened, no call is made, and the backend stays as it is. -/
  quiet : ∀ h, g.exchanges w (.parentOf h) = [] ∧ g.exchanges w (.lookup h "..") = [] ∧
    ((g.parentOf h).answer w).2.backend = w.backend ∧
    ((g.lookup h "..").answer w).2.backend = w.backend

theorem ascends (ht : w.inodes.RootedAt g.rootPath) : g.Ascends w where
  top _ _ := parentOf_of_top
  stays := parentOf_of_top ((pathFor_iff ht.coherent).mpr ht.rooted) (.inl rfl)
  climbs _ _ _ hp within depth := Gateway.climbs ht hp within depth
  fails h p e hp he := by
    by_cases top : p = g.rootPath ∨ ¬ g.rootPath.contains p
    · rw [parentOf_of_top hp top] at he
      cases he
    rw [not_or, not_not] at top
    obtain ⟨hne, within⟩ := top
    -- Below the root there is a parent.
    have hnames : p ≠ .root := by
      rintro rfl
      exact hne (Path.contains_antisymm (Path.contains_iff.mpr List.nil_prefix) within)
    obtain ⟨q, n, rfl⟩ := Path.exists_child_of_ne_root hnames
    rcases parentOf_step ht hp within hne (Path.parent?_child q n) with
      ⟨a, v, ha, -⟩ | ⟨collides, e', he', hcode⟩
    · rw [ha] at he
      cases he
    · rw [he'] at he
      cases he
      exact ⟨hcode, q, Path.parent?_child q n, collides⟩
  dots h := lookup_dots g w h
  quiet h := ⟨exchanges_eq_nil (.map (upward_aside .parentOf _ g.followed _ h)),
    exchanges_eq_nil (.map (upward_aside .lookup [("parent", h.toText), ("name", "..")] _ _ h)),
    (upward_aside .parentOf _ g (· = w.backend) h).ends rfl,
    (upward_aside .lookup [("parent", h.toText), ("name", "..")] g (· = w.backend) h).ends rfl⟩

/-- Whatever happened to an open gateway, pairs that were written straight into its table included:
going up ends at the root, after as many steps as the path is deep below it. -/
theorem OpenedAt.afterSteps_ascends (opened : g.OpenedAt root w) (steps : List (Step σ)) :
    g.Ascends (g.afterSteps w steps) :=
  ascends (opened.afterSteps_rootedAt steps)

/-- From a pair that was written straight into the table, two names deep, two steps lead to the
root; not so if the handle that the parent gets on the way is occupied. -/
theorem overMemory_ascends :
    overMemory.Ascends (overMemory.afterSteps openTree [.plant 5 "/a//b"]) ∧
      ((overMemory.climb 2 5).answer
        (overMemory.afterSteps openTree [.plant 5 "/a//b"])).1.toOption = some 1 ∧
      overMemory.Ascends (overMemory.afterSteps openTree [.plant 5 "/a//b", .plant 2 "/c"]) ∧
      ((overMemory.climb 2 5).answer
        (overMemory.afterSteps openTree [.plant 5 "/a//b", .plant 2 "/c"])).1.toOption = none :=
  ⟨overMemory_openedAt.afterSteps_ascends _, by decide,
    overMemory_openedAt.afterSteps_ascends _, by decide⟩

end InodeGateway.Gateway
