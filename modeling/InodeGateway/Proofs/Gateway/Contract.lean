import InodeGateway.Gateway
import InodeGateway.Proofs.Inodes.Coherence
import InodeGateway.Proofs.World.Triple

/-!
# What every operation respects

The operations of the gateway touch the world in few ways: they call the backend and the registry of
identities, and they sight paths.  A contract says what these few ways keep and how they explain
their failures; from it follows what every operation keeps and how it explains its failures.

## Main definitions

* `Gateway.Makes` — the calls that a gateway makes
* `Gateway.Explains` — an explanation of failures
* `Gateway.Contract` — an invariant, an explanation of failures and the paths that may be sighted
* `Gateway.Contract.Lasting` — facts about the table that its growth does not undo

## Main statements

* `Gateway.Explains.restated` — restating a failure keeps its explanation
* `Gateway.Contract.sightPath_triple` — what may be sighted gets a registered handle
-/

namespace InodeGateway

namespace Gateway

variable {σ : Type}

/-- What an operation tells the observer and writes into the journal changes neither the backend nor
the table; its failure is restated. -/
theorem run_triple {α : Type} {operation : Operation} {context : Journal.Fields} {body : Act σ α}
    {pre : Assertion σ} {post : α → Assertion σ} {fails : Failure → Assertion σ}
    (hrestate : ∀ f b t, fails f b t → fails (restate f) b t)
    (hbody : Act.Triple pre body post fails) :
    Act.Triple pre (run operation context body) post fails := by
  intro w hw
  have ends := hbody w hw
  rw [run, Call.answer_of]
  rcases heq : body.answer w with ⟨f | x, after⟩
  · rw [heq] at ends
    exact hrestate _ _ _ ends
  · rw [heq] at ends
    exact ends

/-- The calls that a gateway makes on its backend and on its registry of identities. -/
inductive Makes (g : Gateway σ) : {α : Type} → Call σ α → Prop
  | openSession : Makes g g.backend.openSession
  | stat (s : Session) (path : String) : Makes g (g.backend.stat s path)
  | permits (s : Session) (right : Right) (path : String) :
      Makes g (g.backend.permits s right path)
  | create (s : Session) (path : String) (kind : Kind) : Makes g (g.backend.create s path kind)
  | list (s : Session) (path : String) : Makes g (g.backend.list s path)
  | capacity {space : Session → Call σ Capacity} (h : g.backend.capacity = some space)
      (s : Session) : Makes g (space s)
  | release (s : Session) : Makes g (g.backend.release s)
  | identity (owner : String) : Makes g (g.identities.resolve owner)

theorem pathFor_eq_ok_iff {t : Inodes} {h : Handle} {p : Path} :
    pathFor t h = .ok p ↔ 0 < h ∧ t.paths.get? h = some p := by
  unfold pathFor
  split
  · next hpos => simp [Int.not_lt.mpr hpos]
  · next hpos => simp [Int.not_le.mp hpos, Inodes.pathOf_eq_ok_iff]

/-- In a coherent table handles are positive, so that what counts is the pair. -/
theorem pathFor_iff {t : Inodes} (ht : t.Coherent) {h : Handle} {p : Path} :
    pathFor t h = .ok p ↔ (h, p) ∈ t.entries := by
  rw [pathFor_eq_ok_iff, ht.pathGet?_iff]
  constructor
  · rintro ⟨-, hmem⟩
    exact hmem
  · intro hmem
    have hkey : h ∈ t.paths.keys := List.mem_map_of_mem hmem
    exact ⟨ht.positive h hkey, hmem⟩

/-- A handle that stands for nothing is an invalid argument or not found. -/
theorem code_of_pathFor {t : Inodes} {h : Handle} {r : Refusal} (hr : pathFor t h = .error r) :
    r.code = .invalidArgument ∨ r.code = .notFound := by
  unfold pathFor Inodes.pathOf at hr
  grind [Refusal.code]

/-- Every path that one of the texts spells is among the paths `A`. -/
def Admits (A : Inodes → Path → Prop) (texts : List String) (t : Inodes) : Prop :=
  ∀ text ∈ texts, ∀ p, Path.ofText text = .ok p → A t p

/-- `E` explains failures: those of calls, wherever they are made, and those of other classes than
the ones that point at a broken table. -/
structure Explains (g : Gateway σ) (E : Failure → σ → Prop) : Prop where
  call : ∀ {α : Type} {c : Call σ α}, g.Makes c → ∀ {b f}, (c.answer b).1 = .error f →
    E f (c.answer b).2
  /-- An explanation outlasts the release of the session. -/
  released : ∀ {f b}, E f b → ∀ s, E f ((g.backend.release s).answer b).2
  harmless : ∀ {f : Failure}, f.code? ≠ some .alreadyMapped →
    f.code? ≠ some .internalInconsistency → ∀ b, E f b

theorem explains_true (g : Gateway σ) : g.Explains fun _ _ => True :=
  ⟨fun _ _ _ _ => trivial, fun _ _ => trivial, fun _ _ _ => trivial⟩

/-- What calls and sightings have to respect: an invariant `I` of the backend and the table, an
explanation `E` of those failures that point at a broken table, and the paths `A` that may be
sighted. -/
structure Contract (g : Gateway σ) (I : Assertion σ) (E : Failure → σ → Prop)
    (A : Inodes → Path → Prop) : Prop where
  explains : g.Explains E
  coherent : ∀ {b t}, I b t → t.Coherent
  rooted : ∀ {b t}, I b t → (Handle.root, g.rootPath) ∈ t.entries
  /-- Calls keep the invariant. -/
  call : ∀ {α : Type} {c : Call σ α}, g.Makes c → ∀ {b t}, I b t → I (c.answer b).2 t
  /-- Sightings keep the invariant and explain their failures. -/
  sight : ∀ {b t p}, I b t → A t p →
    I b (t.sightPath p).2 ∧ ∀ r, (t.sightPath p).1 = .error r → E (collision r.failure) b
  /-- What may be sighted may still be sighted when the table has grown. -/
  grows : ∀ {t t' p}, t.entries <+: t'.entries → A t p → A t' p
  /-- Children of registered paths may be sighted. -/
  child : ∀ {b t h q}, I b t → (h, q) ∈ t.entries → ∀ n, A t (q.child n)
  /-- Parents of registered paths may be sighted within the root. -/
  parent : ∀ {b t h q p}, I b t → (h, q) ∈ t.entries → q ≠ g.rootPath → q.parent? = some p →
    g.rootPath.contains p → A t p
  /-- What the backend lists of a registered path may be sighted. -/
  listed : ∀ {b t h q}, I b t → (h, q) ∈ t.entries → ∀ s texts,
    ((g.backend.list s q.toText).answer b).1 = .ok texts → Admits A texts t

namespace Explains

variable {g : Gateway σ} {E : Failure → σ → Prop}

/-- A refusal of another class than those of a broken table needs no explanation. -/
theorem refused (X : g.Explains E) {r : Refusal} (h : r.code ≠ .alreadyMapped)
    (h' : r.code ≠ .internalInconsistency) (b : σ) : E r.failure b :=
  X.harmless (by simpa using h) (by simpa using h') b

theorem restated (X : g.Explains E) {f : Failure} {b : σ} (h : E f b) : E (restate f) b := by
  unfold restate
  -- A failure in the gateway's terms stays; any other one gets a class that needs no explanation.
  split
  · exact h
  · next reason _ _ _ =>
    cases reason <;> exact X.harmless (by simp [Failure.because, Failure.code?, Reason.code])
      (by simp [Failure.because, Failure.code?, Reason.code]) b
  · exact X.harmless (by simp [Failure.because, Failure.code?])
      (by simp [Failure.because, Failure.code?]) b

end Explains

namespace Contract

variable {g : Gateway σ} {I : Assertion σ} {E : Failure → σ → Prop} {A : Inodes → Path → Prop}

/-- A fact about the table that its growth does not undo. -/
def Lasting (K : Inodes → Prop) : Prop := ∀ ⦃t t' : Inodes⦄, t.entries <+: t'.entries → K t → K t'

theorem lasting_true : Lasting fun _ => True := fun _ _ _ _ => trivial

theorem lasting_registered (h : Handle) : Lasting fun t => t.Registered h :=
  fun _ _ hgrown ⟨p, hmem⟩ => ⟨p, hgrown.subset hmem⟩

theorem Lasting.and {K K' : Inodes → Prop} (hK : Lasting K) (hK' : Lasting K') :
    Lasting fun t => K t ∧ K' t :=
  fun _ _ hgrown ⟨ht, ht'⟩ => ⟨hK hgrown ht, hK' hgrown ht'⟩

/-- A failed operation has kept the invariant and explains its failure. -/
abbrev Fails (I : Assertion σ) (E : Failure → σ → Prop) : Failure → Assertion σ :=
  fun f b t => I b t ∧ E f b

/-- What may be sighted once stays so. -/
theorem lasting_admits (C : g.Contract I E A) (texts : List String) : Lasting (Admits A texts) :=
  fun _ _ hgrown hA text htext p hp => C.grows hgrown (hA text htext p hp)

section Parts

variable (C : g.Contract I E A) {α : Type} {K : Inodes → Prop}
include C

theorem call_triple {c : Call σ α} (hc : g.Makes c) :
    Act.Triple (fun b t => I b t ∧ K t) (Act.call c) (fun _ b t => I b t ∧ K t) (Fails I E) := by
  refine .call fun b t ⟨hI, hK⟩ => ?_
  have kept := C.call hc hI
  exact ⟨fun _ _ => ⟨kept, hK⟩, fun _ hf => ⟨kept, C.explains.call hc hf⟩⟩

theorem check_triple {r : Except Refusal α} {pre : Assertion σ} (hpre : ∀ b t, pre b t → I b t)
    (h : ∀ e, r = .error e → e.code = .invalidArgument) :
    Act.Triple pre (Act.check r) (fun _ => pre) (Fails I E) := by
  refine .check fun b t hb => ⟨fun _ _ => hb, fun e he => ⟨hpre b t hb, ?_⟩⟩
  have hcode := h e he
  exact C.explains.refused (by simp [hcode]) (by simp [hcode]) b

/-- What is done within a session keeps the invariant; its outcome outlasts the release. -/
theorem session_triple {body : Session → Act σ α} {Q : α → Inodes → Prop}
    (hbody : ∀ s, Act.Triple (fun b t => I b t ∧ K t) (body s) (fun x b t => I b t ∧ Q x t)
      (Fails I E)) :
    Act.Triple (fun b t => I b t ∧ K t) (Act.withSession g.backend body)
      (fun x b t => I b t ∧ Q x t) (Fails I E) := by
  refine .withSession (C.call_triple .openSession) hbody ?_ ?_
  · rintro s x b t ⟨hI, hQ⟩
    exact ⟨C.call (.release s) hI, hQ⟩
  · rintro s f b t ⟨hI, hE⟩
    exact ⟨C.call (.release s) hI, C.explains.released hE s⟩

/-- A failure that is put as a failure of the storage needs no explanation of its own. -/
theorem explain_triple {explanation : Failure → Failure} {a : Act σ α} {pre : Assertion σ}
    {post : α → Assertion σ} (hstorage : ∀ f, (explanation f).code? = some .ioFailure)
    (ha : Act.Triple pre a post (Fails I E)) :
    Act.Triple pre (a.explain explanation) post (Fails I E) := by
  refine .explain (ha.weaken_fails ?_)
  rintro f b t ⟨hI, -⟩
  exact ⟨hI, C.explains.harmless (by simp [hstorage]) (by simp [hstorage]) b⟩

theorem run_triple {operation : Operation} {context : Journal.Fields} {body : Act σ α}
    {pre : Assertion σ} {post : α → Assertion σ} (hbody : Act.Triple pre body post (Fails I E)) :
    Act.Triple pre (run operation context body) post (Fails I E) := by
  refine Gateway.run_triple ?_ hbody
  rintro f b t ⟨hI, hE⟩
  exact ⟨hI, C.explains.restated hE⟩

theorem resolve_triple (h : Handle) :
    Act.Triple I (resolve h) (fun p b t => I b t ∧ (h, p) ∈ t.entries) (Fails I E) := by
  refine .look fun b t hI => ⟨fun p hp => ?_, fun r hr => ⟨hI, ?_⟩⟩
  · exact ⟨hI, (pathFor_iff (C.coherent hI)).mp hp⟩
  · rcases code_of_pathFor hr with hcode | hcode <;>
      exact C.explains.refused (by simp [hcode]) (by simp [hcode]) b

/-- A path that may be sighted gets a registered handle. -/
theorem sightPath_triple (hK : Lasting K) (p : Path) :
    Act.Triple (fun b t => I b t ∧ A t p ∧ K t) (Gateway.sightPath p)
      (fun h b t => I b t ∧ (h, p) ∈ t.entries ∧ K t) (Fails I E) := by
  refine .explain (.table fun b t ⟨hI, hA, ht⟩ => ?_)
  obtain ⟨kept, explained⟩ := C.sight hI hA
  refine ⟨fun h hh => ⟨kept, ?_, ?_⟩, fun r hr => ⟨kept, explained r hr⟩⟩
  · exact (C.coherent hI).mem_of_sightPath hh
  · exact hK (t.entries_prefix_sightPath p) ht

theorem sight_triple (hK : Lasting K) (text : String) :
    Act.Triple (fun b t => I b t ∧ (∀ p, Path.ofText text = .ok p → A t p) ∧ K t)
      (Gateway.sight text) (fun h b t => I b t ∧ t.Registered h ∧ K t) (Fails I E) := by
  unfold Gateway.sight
  cases htext : Path.ofText text with
  | error r =>
    -- A text that spells no path is refused before anything is drawn.
    have hcode := Path.code_of_ofText htext
    refine .explain (.table fun b t ⟨hI, _, _⟩ => ?_)
    have unread : t.sight text = (.error r, t) := by simp [Inodes.sight, htext]
    rw [unread]
    refine ⟨fun _ hh => (nomatch hh), fun _ hr => ⟨hI, ?_⟩⟩
    cases hr
    rw [collision, if_neg (by simp [Failure.hasCode, hcode])]
    exact C.explains.refused (by simp [hcode]) (by simp [hcode]) b
  | ok p =>
    have same : (fun t : Inodes => t.sight text) = fun t => t.sightPath p := by
      funext t
      simp [Inodes.sight, htext]
    rw [same]
    refine (C.sightPath_triple hK p).consequence ?_ ?_ (fun _ _ _ h => h)
    · rintro b t ⟨hI, hA, ht⟩
      exact ⟨hI, hA p rfl, ht⟩
    · rintro h b t ⟨hI, hmem, ht⟩
      exact ⟨hI, ⟨p, hmem⟩, ht⟩

end Parts

end Contract

end Gateway

end InodeGateway
