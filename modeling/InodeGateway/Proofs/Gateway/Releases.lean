import InodeGateway.Proofs.Gateway.Mirror

/-!
# Releases that fail

A backend whose releases are made to fail, at any moments and after they have done their work, is
compared with the backend as it is.  Whatever is opened and asked over the two, every outcome is the
same, and so are the tables, the observer's record and the state of the backend.  Only the journal
tells of the failures, one record for each.

## Main definitions

* `Backend.reluctant` — the same backend, whose releases fail at given moments
* `Station`, `Turn` — gateways over one backend, and what can happen to them
* `Interleaved` — two lists put together, each in its own order
* `Station.Echoes` — a second station is like the first, but for the releases that failed

## Main statements

* `Gateway.reluctant_mirrors` — one call after another, the failures change nothing but the journal
* `Station.answer_undisturbed` — neither do they over a whole run
-/

namespace InodeGateway

open Journal

variable {σ α : Type}

/-- The third list is the first two put together, each in its own order. -/
inductive Interleaved : List α → List α → List α → Prop
  | nil : Interleaved [] [] []
  | left {xs ys zs : List α} (h : Interleaved xs ys zs) (x : α) :
      Interleaved (xs ++ [x]) ys (zs ++ [x])
  | right {xs ys zs : List α} (h : Interleaved xs ys zs) (y : α) :
      Interleaved xs (ys ++ [y]) (zs ++ [y])

/-- The state of a backend whose releases are made to fail. -/
structure Reluctant (σ : Type) where
  inner : σ
  /-- The number of releases so far. -/
  releases : Nat := 0
  /-- The failures that releases were made to end with, oldest first. -/
  failed : List Failure := []

namespace Reluctant

/-- A call that takes no notice of releases. -/
def lift (c : Call σ α) : Call (Reluctant σ) α :=
  c.onPart inner fun inner t => { t with inner := inner }

/-- A release that is made; it fails afterwards if that is wanted at this moment and it did not fail
by itself. -/
def release (moments : Nat → Option Failure) (c : Call σ Unit) : Call (Reluctant σ) Unit :=
  .of fun t =>
    let made := { t with inner := (c.answer t.inner).2, releases := t.releases + 1 }
    match (c.answer t.inner).1, moments t.releases with
    | .ok (), some failure => (.error failure, { made with failed := t.failed ++ [failure] })
    | outcome, _ => (outcome, made)

end Reluctant

/-- The same backend, whose releases fail at the given moments after they have done their work.
Releases are counted from zero. -/
def Backend.reluctant (moments : Nat → Option Failure) (b : Backend σ) : Backend (Reluctant σ) where
  kind := b.kind
  openSession := Reluctant.lift b.openSession
  stat s path := Reluctant.lift (b.stat s path)
  permits s right path := Reluctant.lift (b.permits s right path)
  create s path kind := Reluctant.lift (b.create s path kind)
  list s path := Reluctant.lift (b.list s path)
  capacity := b.capacity.map fun space s => Reluctant.lift (space s)
  release s := Reluctant.release moments (b.release s)

/-- The same registry, asked beside the releases. -/
def Identity.Registry.reluctant (identities : Identity.Registry σ) :
    Identity.Registry (Reluctant σ) :=
  ⟨fun owner => Reluctant.lift (identities.resolve owner)⟩

/-- The same gateway, over the backend whose releases fail. -/
def Gateway.reluctant (moments : Nat → Option Failure) (g : Gateway σ) : Gateway (Reluctant σ) :=
  ⟨g.backend.reluctant moments, g.identities.reluctant, g.permissions, g.rootPath⟩

/-- The record of a session that could not be released. -/
def Journal.releaseRecord (kind : String) (failure : Failure) : Record :=
  ⟨.warn, Act.releaseMessage, [("err", failure), ("backend", kind)]⟩

/-- The second world is like the first, but for releases that failed and the records of them. -/
structure World.Echoes (kind : String) (w : World σ) (w' : World (Reluctant σ)) : Prop where
  backend : w'.backend.inner = w.backend
  inodes : w'.inodes = w.inodes
  observed : w'.observed = w.observed
  journal : Interleaved w.journal (w'.backend.failed.map (releaseRecord kind)) w'.journal

namespace World.Echoes

variable {kind : String} {w : World σ} {w' : World (Reluctant σ)}

theorem alongside (kind : String) : Act.Alongside (World.Echoes (σ := σ) kind) where
  inodes h := h.inodes
  setInodes h _ := ⟨h.backend, rfl, h.observed, h.journal⟩
  note h _ _ _ := ⟨h.backend, h.inodes, h.observed, h.journal.left _⟩
  observe h operation outcome :=
    ⟨h.backend, h.inodes, congrArg (· ++ [(operation, outcome)]) h.observed, h.journal⟩

theorem call_agree (c : Call σ α) :
    Act.Agree (World.Echoes kind) (Act.call c) (Act.call (Reluctant.lift c)) := by
  intro w w' h
  rw [Act.answer_call, Act.answer_call, Reluctant.lift, Call.answer_onPart, h.backend]
  exact ⟨rfl, rfl, h.inodes, h.observed, h.journal⟩

/-- A release leaves the worlds related, whether it fails by itself, is made to fail, or
succeeds. -/
theorem afterRelease (moments : Nat → Option Failure) (b : Backend σ) (s : Session)
    (h : World.Echoes b.kind w w') :
    World.Echoes b.kind (w.afterRelease b s) (w'.afterRelease (b.reluctant moments) s) := by
  have journal := h.journal
  refine ⟨?_, ?_, ?_, ?_⟩
  all_goals
    simp only [backend_afterRelease, inodes_afterRelease, observed_afterRelease,
      journal_afterRelease, releaseRecords, Backend.reluctant, Reluctant.release, Call.answer_of,
      h.backend]
  · rcases (b.release s).answer w.backend with ⟨f | ⟨⟩, released⟩
    · rfl
    · cases moments w'.backend.releases <;> rfl
  · exact h.inodes
  · exact h.observed
  · rcases (b.release s).answer w.backend with ⟨f | ⟨⟩, released⟩
    · exact journal.left _
    · cases moments w'.backend.releases with
      | none => simpa using journal
      | some f =>
        rw [List.map_append, List.append_nil]
        exact journal.right (releaseRecord b.kind f)

end World.Echoes

namespace Gateway

variable (moments : Nat → Option Failure) (g : Gateway σ)

/-- One call after another, releases that fail change nothing but the journal. -/
theorem reluctant_mirrors : g.Mirrors (g.reluctant moments) (World.Echoes g.backend.kind) where
  alongside := World.Echoes.alongside _
  permissions := rfl
  rootPath := rfl
  openSession := World.Echoes.call_agree _
  stat _ _ := World.Echoes.call_agree _
  permits _ _ _ := World.Echoes.call_agree _
  create _ _ _ := World.Echoes.call_agree _
  list _ _ := World.Echoes.call_agree _
  space s := by
    unfold Gateway.space
    simp only [reluctant, Backend.reluctant]
    cases g.backend.capacity with
    | none => exact .pure _
    | some space => exact World.Echoes.call_agree _
  release s _ _ h := h.afterRelease moments g.backend s
  identity _ := World.Echoes.call_agree _

end Gateway

/-! ### Runs -/

/-- What can happen over one backend. -/
inductive Turn (σ : Type) where
  /-- A gateway is opened at the root that a text spells. -/
  | establish (identities : Identity.Registry σ) (permissions : PermissionModel) (root : String)
  /-- A gateway is asked; they are counted from zero in the order in which they were opened. -/
  | request (number : Nat) (r : Request)
  /-- What lies behind the gateways changes by itself. -/
  | change (f : σ → σ)

/-- The same turn over the backend whose releases fail. -/
def Turn.reluctant : Turn σ → Turn (Reluctant σ)
  | .establish identities permissions root => .establish identities.reluctant permissions root
  | .request number r => .request number r
  | .change f => .change fun t => { t with inner := f t.inner }

/-- One backend with the open gateways over it and their tables, their journal, and what their
observer was told. -/
structure Station (σ : Type) where
  backend : σ
  journal : List Record := []
  observed : List (Operation × Outcome) := []
  gateways : List (Gateway σ × Inodes) := []

namespace Station

/-- The world that a gateway with this table works in. -/
def world (p : Station σ) (t : Inodes) : World σ := ⟨p.backend, t, p.journal, p.observed⟩

/-- The station in which a gateway has left the world. -/
def ofWorld (w : World σ) (gateways : List (Gateway σ × Inodes)) : Station σ :=
  ⟨w.backend, w.journal, w.observed, gateways⟩

/-- The outcome of a turn, and what it leaves.  Nothing happens if there is no such gateway. -/
def answer (b : Backend σ) (p : Station σ) : Turn σ → Except Failure Answer × Station σ
  | .establish identities permissions root =>
    match (Gateway.establish b identities permissions root).answer (p.world {}) with
    | (.ok g, w) => (.ok .done, ofWorld w (p.gateways ++ [(g, w.inodes)]))
    | (.error failure, w) => (.error failure, ofWorld w p.gateways)
  | .request number r =>
    match p.gateways[number]? with
    | none => (.ok .done, p)
    | some (g, t) =>
      let (outcome, w) := (g.perform r).answer (p.world t)
      (outcome, ofWorld w (p.gateways.set number (g, w.inodes)))
  | .change f => (.ok .done, { p with backend := f p.backend })

/-- What turns leave, one after another. -/
def afterAll (b : Backend σ) (p : Station σ) (turns : List (Turn σ)) : Station σ :=
  turns.foldl (fun p turn => (p.answer b turn).2) p

/-- The second station is like the first, but for releases that failed and the records of them: the
backend, the tables of the gateways and the observer's record are the same. -/
structure Echoes (kind : String) (p : Station σ) (p' : Station (Reluctant σ)) : Prop where
  backend : p'.backend.inner = p.backend
  tables : p'.gateways.map Prod.snd = p.gateways.map Prod.snd
  observed : p'.observed = p.observed
  journal : Interleaved p.journal (p'.backend.failed.map (releaseRecord kind)) p'.journal

/-- The gateways of the first station are open over the backend; those of the second are the same
gateways, over the backend whose releases fail. -/
structure Shadows (moments : Nat → Option Failure) (b : Backend σ) (p : Station σ)
    (p' : Station (Reluctant σ)) : Prop where
  sharing : ∀ entry ∈ p.gateways, entry.1.backend = b
  gateways : p'.gateways = p.gateways.map fun entry => (entry.1.reluctant moments, entry.2)
  world : ∀ t, World.Echoes b.kind (p.world t) (p'.world t)

variable {moments : Nat → Option Failure} {b : Backend σ} {p : Station σ}
  {p' : Station (Reluctant σ)}

theorem Shadows.echoes (h : p.Shadows moments b p') : p.Echoes b.kind p' where
  backend := (h.world {}).backend
  tables := by
    rw [h.gateways, List.map_map]
    rfl
  observed := (h.world {}).observed
  journal := (h.world {}).journal

theorem Shadows.start (x : σ) :
    ({ backend := x } : Station σ).Shadows moments b { backend := { inner := x } } where
  sharing := nofun
  gateways := rfl
  world _ := ⟨rfl, rfl, rfl, .nil⟩

/-- Worlds that are related make stations that are related. -/
theorem Shadows.ofWorld (moments : Nat → Option Failure) {w : World σ} {w' : World (Reluctant σ)}
    (h : World.Echoes b.kind w w') {gateways : List (Gateway σ × Inodes)}
    (sharing : ∀ entry ∈ gateways, entry.1.backend = b) :
    (Station.ofWorld w gateways).Shadows moments b
      (.ofWorld w' (gateways.map fun entry => (entry.1.reluctant moments, entry.2))) where
  sharing := sharing
  gateways := rfl
  world _ := ⟨h.backend, rfl, h.observed, h.journal⟩

/-- A turn has the same outcome in both stations, and leaves them related. -/
theorem Shadows.answer (h : p.Shadows moments b p') (turn : Turn σ) :
    (p'.answer (b.reluctant moments) turn.reluctant).1 = (p.answer b turn).1 ∧
      (p.answer b turn).2.Shadows moments b
        (p'.answer (b.reluctant moments) turn.reluctant).2 := by
  cases turn with
  | establish identities permissions root =>
    have mounted : Act.Agree (World.Echoes b.kind) (Gateway.mount b identities permissions root)
        (Gateway.mount (b.reluctant moments) identities.reluctant permissions root) :=
      Gateway.mount_agree
        (fun rootPath => Gateway.reluctant_mirrors moments ⟨b, identities, permissions, rootPath⟩)
        root
    simp only [Turn.reluctant, Station.answer, Gateway.establish_eq_map, Call.answer_map]
    rcases mounted.outcome (h.world {}) with ⟨f, v, v', heq, heq', after⟩ |
      ⟨rootPath, v, v', heq, heq', after⟩
    · rw [heq, heq', h.gateways]
      exact ⟨rfl, .ofWorld moments after h.sharing⟩
    · rw [heq, heq', h.gateways]
      refine ⟨rfl, ?_⟩
      have sharing : ∀ entry ∈ p.gateways ++ [(⟨b, identities, permissions, rootPath⟩, v.inodes)],
          entry.1.backend = b :=
        List.forall_mem_append.mpr ⟨h.sharing, List.forall_mem_singleton.mpr rfl⟩
      have left := Shadows.ofWorld moments after sharing
      rw [List.map_append] at left
      simp only [Except.map, after.inodes]
      exact left
  | request number r =>
    simp only [Turn.reluctant, Station.answer, h.gateways, List.getElem?_map]
    cases hnumber : p.gateways[number]? with
    | none => exact ⟨rfl, h⟩
    | some entry =>
      obtain ⟨g, t⟩ := entry
      obtain rfl : g.backend = b := h.sharing _ (List.mem_of_getElem? hnumber)
      obtain ⟨same, after⟩ := (g.reluctant_mirrors moments).perform_agree r _ _ (h.world t)
      simp only [Option.map_some]
      refine ⟨same, ?_⟩
      have sharing : ∀ entry ∈ p.gateways.set number (g, ((g.perform r).answer (p.world t)).2.inodes),
          entry.1.backend = g.backend := by
        intro entry hentry
        rcases List.mem_or_eq_of_mem_set hentry with hold | rfl
        · exact h.sharing entry hold
        · rfl
      have left := Shadows.ofWorld moments after sharing
      rw [List.map_set] at left
      rw [after.inodes]
      exact left
  | change f =>
    refine ⟨rfl, h.sharing, h.gateways, fun t => ?_⟩
    have before := h.world t
    exact ⟨congrArg f before.backend, rfl, before.observed, before.journal⟩

theorem Shadows.afterAll (h : p.Shadows moments b p') (turns : List (Turn σ)) :
    (p.afterAll b turns).Shadows moments b
      (p'.afterAll (b.reluctant moments) (turns.map Turn.reluctant)) := by
  induction turns generalizing p p' with
  | nil => exact h
  | cons turn rest ih => exact ih (h.answer turn).2

end Station

end InodeGateway
