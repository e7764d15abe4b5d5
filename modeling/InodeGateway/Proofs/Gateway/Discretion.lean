import InodeGateway.Proofs.Attributes
import InodeGateway.Proofs.Journal.Secrets
import InodeGateway.Proofs.Gateway.Releases
import InodeGateway.Backend.Memory
import Mathlib.Data.List.Forall2

/-!
# Identities stay out of the journal's lines

Two runs over one backend whose fixed identity maps differ in identities that are no user ids go
alike.  Such an identity makes an operation fail, whatever it is, and stands in the details of that
failure; so the journals of the two runs tell of different failures.  The lines that are emitted of
them are the same.

## Main definitions

* `Identity.Interchangeable` — maps that differ in identities that are no user ids
* `World.Veiled`, `Act.Veiled` — worlds whose journals differ in such identities, and actions that
  go alike in them
* `Turn.Veiled`, `Station.Veiled` — the same of what happens over one backend, and of what it leaves

## Main statements

* `Attributes.askUserId_veiled` — the one question that meets such an identity
* `Gateway.perform_veiled` — what one request leaves
* `Station.emitted_alike` — what is emitted of whole runs
-/

namespace InodeGateway

open Journal

variable {σ α β : Type}

namespace Identity

/-- The text is no user id. -/
def Rejects (owner text : String) : Prop := ∃ r, userId owner text = .error r

/-- What is wrong with a text is told with the text. -/
theorem Rejects.eq {owner text : String} (h : Rejects owner text) :
    userId owner text = .error (.malformedIdentity owner text) := by
  obtain ⟨r, hr⟩ := h
  simp only [userId] at hr ⊢
  split_ifs at hr ⊢
  · rfl
  · split at hr
    · cases hr
    · rfl

/-- The maps have the same owners.  Where they tell different identities, both are no user ids. -/
def Interchangeable (entries entries' : OrderedMap String String) : Prop :=
  ∀ owner, entries'.get? owner = entries.get? owner ∨
    ∃ id id', entries.get? owner = some id ∧ entries'.get? owner = some id' ∧
      Rejects owner id ∧ Rejects owner id'

end Identity

/-- The worlds are the same, but for identities that are no user ids in what the journal tells. -/
structure World.Veiled (w w' : World σ) : Prop where
  backend : w'.backend = w.backend
  inodes : w'.inodes = w.inodes
  observed : w'.observed = w.observed
  journal : List.Forall₂ Record.Veiled w.journal w'.journal

theorem World.Veiled.append {w w' : World σ} (h : w.Veiled w') {rs rs' : List Record}
    (hrs : List.Forall₂ Record.Veiled rs rs') :
    List.Forall₂ Record.Veiled (w.journal ++ rs) (w'.journal ++ rs') :=
  List.rel_append h.journal hrs

theorem Journal.veiled_refl (rs : List Record) : List.Forall₂ Record.Veiled rs rs :=
  List.forall₂_same.mpr fun r _ => .same r

theorem World.Veiled.alongside : Act.Alongside (World.Veiled (σ := σ)) where
  inodes h := h.inodes
  setInodes h _ := ⟨h.backend, rfl, h.observed, h.journal⟩
  note h _ _ _ := ⟨h.backend, h.inodes, h.observed, h.append (veiled_refl _)⟩
  observe h operation outcome :=
    ⟨h.backend, h.inodes, congrArg (· ++ [(operation, outcome)]) h.observed, h.journal⟩

theorem World.Veiled.afterRelease {w w' : World σ} (h : w.Veiled w') (b : Backend σ) (s : Session) :
    (w.afterRelease b s).Veiled (w'.afterRelease b s) := by
  have records : w'.releaseRecords b s = w.releaseRecords b s := by
    unfold World.releaseRecords
    rw [h.backend]
  refine ⟨?_, ?_, ?_, ?_⟩
  · rw [backend_afterRelease, backend_afterRelease, h.backend]
  · rw [inodes_afterRelease, inodes_afterRelease, h.inodes]
  · rw [observed_afterRelease, observed_afterRelease, h.observed]
  · rw [journal_afterRelease, journal_afterRelease, records]
    exact h.append (veiled_refl _)

namespace Act

/-- Both actions give the same answer, or fail with failures that differ in an identity that is no
user id at most, and so do the worlds that they leave. -/
def Veiled (a a' : Act σ α) : Prop := ∀ w w', w.Veiled w' →
  (∃ x v v', a.answer w = (.ok x, v) ∧ a'.answer w' = (.ok x, v') ∧ v.Veiled v') ∨
    ∃ f f' v v', a.answer w = (.error f, v) ∧ a'.answer w' = (.error f', v') ∧
      f.Veiled f' ∧ v.Veiled v'

namespace Veiled

variable {a a' : Act σ α}

theorem of_agree (h : Agree World.Veiled a a') : Act.Veiled a a' := by
  intro w w' hw
  rcases h.outcome hw with ⟨f, v, v', heq, heq', after⟩ | ⟨x, v, v', heq, heq', after⟩
  · exact .inr ⟨f, f, v, v', heq, heq', .same f, after⟩
  · exact .inl ⟨x, v, v', heq, heq', after⟩

theorem bind {k k' : α → Act σ β} (ha : Act.Veiled a a') (hk : ∀ x, Act.Veiled (k x) (k' x)) :
    Act.Veiled (a >>= k) (a' >>= k') := by
  intro w w' hw
  rw [Call.answer_bind, Call.answer_bind]
  rcases ha w w' hw with ⟨x, v, v', heq, heq', after⟩ | ⟨f, f', v, v', heq, heq', fails, after⟩
  · rw [heq, heq']
    exact hk x v v' after
  · rw [heq, heq']
    exact .inr ⟨f, f', v, v', rfl, rfl, fails, after⟩

theorem map (f : α → β) (ha : Act.Veiled a a') : Act.Veiled (f <$> a) (f <$> a') := by
  rw [map_eq_pure_bind, map_eq_pure_bind]
  exact ha.bind fun x => of_agree (.pure (f x))

theorem withSession (b : Backend σ) {body body' : Session → Act σ α}
    (hopen : Agree World.Veiled (call b.openSession) (call b.openSession))
    (hbody : ∀ s, Act.Veiled (body s) (body' s)) :
    Act.Veiled (Act.withSession b body) (Act.withSession b body') := by
  intro w w' hw
  rw [answer_withSession, answer_withSession]
  rcases hopen.outcome hw with ⟨f, v, v', heq, heq', after⟩ | ⟨s, v, v', heq, heq', after⟩
  · rw [heq, heq']
    exact .inr ⟨f, f, v, v', rfl, rfl, .same f, after⟩
  · rw [heq, heq']
    rcases hbody s v v' after with ⟨x, u, u', heq, heq', worked⟩ |
      ⟨f, f', u, u', heq, heq', fails, worked⟩
    · exact .inl ⟨x, _, _, by simp only [heq], by simp only [heq'], worked.afterRelease b s⟩
    · exact .inr ⟨f, f', _, _, by simp only [heq], by simp only [heq'], fails,
        worked.afterRelease b s⟩

end Veiled

end Act

theorem Call.agree_veiled (c : Call σ α) : Act.Agree World.Veiled (Act.call c) (Act.call c) := by
  intro w w' h
  rw [Act.answer_call, Act.answer_call, h.backend]
  exact ⟨rfl, rfl, h.inodes, h.observed, h.journal⟩

variable {entries entries' : OrderedMap String String}

/-- The question for the user id of an owner meets identities that are no user ids, and fails
then. -/
theorem Attributes.askUserId_veiled (h : Identity.Interchangeable entries entries')
    (m : Metadata) :
    Act.Veiled (askUserId (σ := σ) (Identity.static entries) m)
      (askUserId (Identity.static entries') m) := by
  intro w w' hw
  rw [answer_askUserId, answer_askUserId]
  rcases h (Identity.owner m.ownerName m.ownerZone) with
    same | ⟨id, id', hid, hid', rejects, rejects'⟩
  · have told : userIdOf (Identity.static entries') m = userIdOf (Identity.static entries) m :=
      userIdOf_congr (congrArg Except.ok same)
    rw [told]
    cases userIdOf (Identity.static entries) m with
    | error f => exact .inr ⟨f, f, w, w', rfl, rfl, .same f, hw⟩
    | ok x => exact .inl ⟨x, w, w', rfl, rfl, hw⟩
  · rw [userIdOf_of_some (congrArg Except.ok hid), userIdOf_of_some (congrArg Except.ok hid'),
      rejects.eq, rejects'.eq]
    exact .inr ⟨_, _, w, w', rfl, rfl, .identity _ id id', hw⟩

namespace Gateway

/-- A gateway goes alike in worlds that differ in identities that are no user ids. -/
theorem mirrors_veiled (g : Gateway σ) : g.Mirrors g World.Veiled where
  alongside := World.Veiled.alongside
  permissions := rfl
  rootPath := rfl
  openSession := Call.agree_veiled _
  stat _ _ := Call.agree_veiled _
  permits _ _ _ := Call.agree_veiled _
  create _ _ _ := Call.agree_veiled _
  list _ _ := Call.agree_veiled _
  space s := by
    unfold space
    cases g.backend.capacity with
    | none => exact .pure _
    | some capacity => exact Call.agree_veiled _
  release s _ _ h := h.afterRelease g.backend s
  identity _ := Call.agree_veiled _

/-- The gateway with a fixed identity map. -/
def knowing (g : Gateway σ) (entries : OrderedMap String String) : Gateway σ :=
  { g with identities := Identity.static entries }

section Knowing

variable (g : Gateway σ) (h : Identity.Interchangeable entries entries')

/-- The failure of an operation is restated and noted, with the identity in it. -/
theorem run_veiled {operation : Operation} {context : Fields} {body body' : Act σ α}
    (hbody : Act.Veiled body body') :
    Act.Veiled (run operation context body) (run operation context body') := by
  intro w w' hw
  rw [run, run, Call.answer_of, Call.answer_of]
  rcases hbody w w' hw with ⟨x, v, v', heq, heq', after⟩ | ⟨f, f', v, v', heq, heq', fails, after⟩
  · rw [heq, heq']
    exact .inl ⟨x, _, _, rfl, rfl, World.Veiled.alongside.observe after _ _⟩
  · rw [heq, heq']
    refine .inr ⟨_, _, _, _, rfl, rfl, ?_⟩
    cases fails with
    | same =>
      exact ⟨.same _, World.Veiled.alongside.note (World.Veiled.alongside.observe after _ _) _ _ _⟩
    | identity owner id id' =>
      -- A failure of the gateway stays what it is, and one of this class is noted as an error.
      have observed := World.Veiled.alongside.observe after operation (.failed .ioFailure)
      refine ⟨.identity owner id id', observed.backend, observed.inodes, observed.observed, ?_⟩
      exact observed.append (.cons (.failed (.identity owner id id') _ _ _) .nil)

include h

theorem ofMetadata_veiled (handle : Handle) (m : Metadata) :
    Act.Veiled (Attributes.ofMetadata (g.knowing entries).identities g.permissions handle m)
      (Attributes.ofMetadata (g.knowing entries').identities g.permissions handle m) :=
  .bind (Attributes.askUserId_veiled h m) fun _ =>
    .of_agree (.bind (g.mirrors_veiled.note_agree _ _ _) fun _ => .pure _)

theorem getAttributes_veiled (handle : Handle) :
    Act.Veiled ((g.knowing entries).getAttributes handle)
      ((g.knowing entries').getAttributes handle) := by
  refine run_veiled (.bind (.of_agree (g.mirrors_veiled.resolve_agree handle)) fun p => ?_)
  refine .withSession g.backend (Call.agree_veiled _) fun s => ?_
  exact .bind (.of_agree (Call.agree_veiled _)) fun m => g.ofMetadata_veiled h handle m

theorem entries_veiled (s : Session) (children : List String) :
    Act.Veiled ((g.knowing entries).entries s children)
      ((g.knowing entries').entries s children) := by
  induction children with
  | nil => exact .of_agree (.pure _)
  | cons child rest ih =>
    refine .bind (.of_agree (.orMissing _ (.map _ (Call.agree_veiled _)))) fun described => ?_
    cases described with
    | none => exact .bind (.of_agree (g.mirrors_veiled.note_agree _ _ _)) fun _ => ih
    | some m =>
      refine .bind (.of_agree (g.mirrors_veiled.sight_agree child)) fun handle => ?_
      refine .bind (.of_agree (.check _)) fun name => ?_
      exact .bind (g.ofMetadata_veiled h handle m) fun _ =>
        .bind ih fun _ => .of_agree (.pure _)

theorem list_veiled (handle : Handle) :
    Act.Veiled ((g.knowing entries).list handle) ((g.knowing entries').list handle) := by
  refine run_veiled (.bind (.of_agree (g.mirrors_veiled.resolve_agree handle)) fun p => ?_)
  refine .withSession g.backend (Call.agree_veiled _) fun s => ?_
  exact .bind (.of_agree (Call.agree_veiled _)) fun children => g.entries_veiled h s children

/-- Whatever is asked, the answers and what they leave differ in identities that are no user ids
at most.  Only two requests ask for identities. -/
theorem perform_veiled (r : Request) :
    Act.Veiled ((g.knowing entries).perform r) ((g.knowing entries').perform r) := by
  have alike := (g.knowing entries).mirrors_veiled.perform_agree r
  cases r with
  | getAttributes handle => exact .map _ (g.getAttributes_veiled h handle)
  | list handle => exact .map _ (g.list_veiled h handle)
  | checkAccess _ _ => exact .of_agree alike
  | create _ _ _ _ _ => exact .of_agree alike
  | lookup _ _ => exact .of_agree alike
  | parentOf _ => exact .of_agree alike
  | statistics => exact .of_agree alike
  | commit _ => exact .of_agree alike
  | unoffered _ => exact .of_agree alike

end Knowing

/-- The gateways are the same, but for fixed identity maps that differ in identities that are no
user ids. -/
inductive Veiled : Gateway σ → Gateway σ → Prop
  | same (g : Gateway σ) : Veiled g g
  | knowing (g : Gateway σ) {entries entries' : OrderedMap String String}
      (h : Identity.Interchangeable entries entries') :
      Veiled (g.knowing entries) (g.knowing entries')

theorem Veiled.perform {g g' : Gateway σ} (h : g.Veiled g') (r : Request) :
    Act.Veiled (g.perform r) (g'.perform r) := by
  cases h with
  | same => exact .of_agree (g.mirrors_veiled.perform_agree r)
  | knowing g h => exact g.perform_veiled h r

end Gateway

/-! ### Runs -/

/-- The turns are the same, but for the fixed identity map that a gateway is opened with. -/
inductive Turn.Veiled : Turn σ → Turn σ → Prop
  | same (turn : Turn σ) : Veiled turn turn
  | establish {entries entries' : OrderedMap String String}
      (h : Identity.Interchangeable entries entries') (permissions : PermissionModel)
      (root : String) :
      Veiled (.establish (Identity.static entries) permissions root)
        (.establish (Identity.static entries') permissions root)

namespace Station

/-- The stations are the same, but for identities that are no user ids. -/
structure Veiled (p p' : Station σ) : Prop where
  world : ∀ t, (p.world t).Veiled (p'.world t)
  gateways : List.Forall₂ (fun e e' => e.1.Veiled e'.1 ∧ e'.2 = e.2) p.gateways p'.gateways

variable {b : Backend σ} {p p' : Station σ} {turn turn' : Turn σ}

theorem Veiled.ofWorld {w w' : World σ} (h : w.Veiled w')
    {gateways gateways' : List (Gateway σ × Inodes)}
    (hg : List.Forall₂ (fun e e' => e.1.Veiled e'.1 ∧ e'.2 = e.2) gateways gateways') :
    (Station.ofWorld w gateways).Veiled (.ofWorld w' gateways') where
  world _ := ⟨h.backend, rfl, h.observed, h.journal⟩
  gateways := hg

/-- Opening a gateway asks for no identity. -/
theorem Veiled.establish (h : p.Veiled p') {identities identities' : Identity.Registry σ}
    (permissions : PermissionModel) (root : String)
    (hg : ∀ rootPath, Gateway.Veiled ⟨b, identities, permissions, rootPath⟩
      ⟨b, identities', permissions, rootPath⟩) :
    (p.answer b (.establish identities permissions root)).2.Veiled
      (p'.answer b (.establish identities' permissions root)).2 := by
  have mounted : Act.Agree World.Veiled (Gateway.mount b identities permissions root)
      (Gateway.mount b identities' permissions root) :=
    Gateway.mount_agree
      (fun rootPath => Gateway.mirrors_veiled ⟨b, identities, permissions, rootPath⟩) root
  simp only [Station.answer, Gateway.establish_eq_map, Call.answer_map]
  rcases mounted.outcome (h.world {}) with ⟨f, v, v', heq, heq', after⟩ |
    ⟨rootPath, v, v', heq, heq', after⟩
  · rw [heq, heq']
    exact .ofWorld after h.gateways
  · rw [heq, heq']
    exact .ofWorld after (List.rel_append h.gateways (.cons ⟨hg rootPath, after.inodes⟩ .nil))

/-- The same gateway is asked on both sides, or none. -/
theorem Veiled.gateway (h : p.Veiled p') (number : Nat) :
    (p.gateways[number]? = none ∧ p'.gateways[number]? = none) ∨
      ∃ g g' t, p.gateways[number]? = some (g, t) ∧ p'.gateways[number]? = some (g', t) ∧
        g.Veiled g' := by
  have length := h.gateways.length_eq
  rcases Nat.lt_or_ge number p.gateways.length with hlt | hge
  · have hlt' : number < p'.gateways.length := length ▸ hlt
    obtain ⟨veiled, table⟩ := h.gateways.get hlt hlt'
    refine .inr ⟨_, _, _, List.getElem?_eq_getElem hlt, ?_, veiled⟩
    rw [List.getElem?_eq_getElem hlt']
    exact congrArg some (Prod.ext rfl table)
  · exact .inl ⟨List.getElem?_eq_none hge, List.getElem?_eq_none (length ▸ hge)⟩

theorem Veiled.setGateway (h : p.Veiled p') (number : Nat) {g g' : Gateway σ} (hg : g.Veiled g')
    {t t' : Inodes} (ht : t' = t) :
    List.Forall₂ (fun e e' => e.1.Veiled e'.1 ∧ e'.2 = e.2) (p.gateways.set number (g, t))
      (p'.gateways.set number (g', t')) := by
  have related := h.gateways
  generalize p.gateways = gateways, p'.gateways = gateways' at related ⊢
  induction related generalizing number with
  | nil => exact .nil
  | cons head rest ih =>
    cases number with
    | zero => exact .cons ⟨hg, ht⟩ rest
    | succ n => exact .cons head (ih n)

theorem Veiled.answer (h : p.Veiled p') (hturn : turn.Veiled turn') :
    (p.answer b turn).2.Veiled (p'.answer b turn').2 := by
  cases hturn with
  | @establish entries entries' hmap permissions root =>
    exact h.establish permissions root fun rootPath =>
      .knowing ⟨b, Identity.static entries, permissions, rootPath⟩ hmap
  | same =>
    cases turn with
    | establish identities permissions root =>
      exact h.establish permissions root fun rootPath => .same _
    | request number r =>
      rcases h.gateway number with ⟨hnone, hnone'⟩ | ⟨g, g', t, hsome, hsome', veiled⟩
      · simp only [Station.answer, hnone, hnone']
        exact h
      · simp only [Station.answer, hsome, hsome']
        rcases veiled.perform r _ _ (h.world t) with ⟨x, v, v', heq, heq', after⟩ |
          ⟨f, f', v, v', heq, heq', fails, after⟩
        · rw [heq, heq']
          exact .ofWorld after (h.setGateway number veiled after.inodes)
        · rw [heq, heq']
          exact .ofWorld after (h.setGateway number veiled after.inodes)
    | change f =>
      refine ⟨fun t => ?_, h.gateways⟩
      have before := h.world t
      exact ⟨congrArg f before.backend, rfl, before.observed, before.journal⟩

theorem Veiled.afterAll (h : p.Veiled p') {turns turns' : List (Turn σ)}
    (hturns : List.Forall₂ Turn.Veiled turns turns') :
    (p.afterAll b turns).Veiled (p'.afterAll b turns') := by
  induction hturns generalizing p p' with
  | nil => exact h
  | cons hturn _ ih => exact ih (h.answer hturn)

theorem veiled_refl (p : Station σ) : p.Veiled p where
  world _ := ⟨rfl, rfl, rfl, Journal.veiled_refl _⟩
  gateways := List.forall₂_same.mpr fun e _ => ⟨.same e.1, rfl⟩

/-- Two runs over one backend, from the same state, whose turns are the same but for fixed identity
maps that differ in identities that are no user ids.  What is noted differs in such identities only,
and what a logger emits of it does not differ at all: whatever its labels, its threshold and the
clock. -/
theorem emitted_alike (b : Backend σ) (p : Station σ) {turns turns' : List (Turn σ)}
    (h : List.Forall₂ Turn.Veiled turns turns') (labels : List (String × String))
    (threshold : Level) (clock : Nat → String) :
    List.Forall₂ Record.Veiled (p.afterAll b turns).journal (p.afterAll b turns').journal ∧
      emitted labels threshold clock (p.afterAll b turns').journal =
        emitted labels threshold clock (p.afterAll b turns).journal := by
  have journals := (((veiled_refl p).afterAll (b := b) h).world {}).journal
  exact ⟨journals, (emitted_veiled journals labels threshold clock).symm⟩

/-- A tree is opened with one identity for the owner of its root, and the root is asked for. -/
def askedFor (id : String) : Station Memory :=
  ({ backend := Memory.empty ⟨"7", "grid"⟩ 1024 (.at 0) } : Station Memory).afterAll Memory.backend
    [.establish (Identity.static (OrderedMap.ofList [("7#grid", id)])) PermissionModel.fixed "/",
      .request 0 (.getAttributes 1)]

/-- The identities that a record tells. -/
def identitiesOf (r : Record) : List String :=
  r.fields.flatMap fun
    | (_, .failure f) => (f.details?.getD []).filterMap fun
      | ("identity", .str id) => some id
      | _ => none
    | _ => []

/-- Two words are no user ids.  Both are noted, and neither is emitted. -/
theorem emitted_alike_words :
    Identity.Interchangeable (OrderedMap.ofList [("7#grid", "seven")])
        (OrderedMap.ofList [("7#grid", "sept")]) ∧
      (askedFor "seven").journal.flatMap identitiesOf = ["seven"] ∧
      (askedFor "sept").journal.flatMap identitiesOf = ["sept"] ∧
      (emitted (Gateway.labels "memory") .error toString (askedFor "seven").journal).length = 1 ∧
      emitted (Gateway.labels "memory") .error toString (askedFor "sept").journal =
        emitted (Gateway.labels "memory") .error toString (askedFor "seven").journal := by
  have rejected (owner : String) : ∀ id ∈ ["seven", "sept"], Identity.Rejects owner id := by
    intro id hid
    refine ⟨.malformedIdentity owner id, if_pos (.inr ?_)⟩
    revert id
    decide +kernel
  have interchangeable : Identity.Interchangeable (OrderedMap.ofList [("7#grid", "seven")])
      (OrderedMap.ofList [("7#grid", "sept")]) := by
    intro owner
    simp only [OrderedMap.ofList, List.foldl, OrderedMap.get?_insert]
    by_cases howner : "7#grid" = owner
    · exact .inr ⟨"seven", "sept", if_pos howner, if_pos howner, rejected owner _ (by simp),
        rejected owner _ (by simp)⟩
    · exact .inl (by simp [howner])
  refine ⟨interchangeable, by decide +kernel, by decide +kernel, by decide +kernel, ?_⟩
  exact (emitted_alike Memory.backend _
    (.cons (.establish interchangeable PermissionModel.fixed "/") (.cons (.same _) .nil))
    (Gateway.labels "memory") .error toString).2

end Station

end InodeGateway
