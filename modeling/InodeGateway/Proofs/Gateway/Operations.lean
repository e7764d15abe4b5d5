import InodeGateway.Gateway.Request
import InodeGateway.Proofs.Gateway.Contract

/-!
# Operations under a contract

What calls and sightings respect, every operation respects: it keeps the invariant, whether it
succeeds or fails, it answers with registered handles only, and it explains its failure.

## Main definitions

* `Answer.handles` — the handles that an answer tells

## Main statements

* `Gateway.Contract.perform_triple` — what every operation respects
-/

namespace InodeGateway

def Answer.handles : Answer → List Handle
  | .attributes a => [a.inode]
  | .handle h => [h]
  | .entries list => list.flatMap fun e => [e.handle, e.attributes.inode]
  | .granted _ | .statistics _ | .done => []

namespace Gateway.Contract

variable {σ : Type} {g : Gateway σ} {I : Assertion σ} {E : Failure → σ → Prop}
  {A : Inodes → Path → Prop} {K : Inodes → Prop} (C : g.Contract I E A)
include C

section Translation

theorem askUserId_triple (m : Metadata) :
    Act.Triple (fun b t => I b t ∧ K t) (Attributes.askUserId g.identities m)
      (fun _ b t => I b t ∧ K t) (Fails I E) := by
  unfold Attributes.askUserId
  refine .bind (C.explain_triple (fun _ => rfl) (C.call_triple (.identity _))) fun text => ?_
  cases text with
  | none =>
    refine .fail fun b _ hIK => ⟨hIK.1, C.explains.refused ?_ ?_ b⟩ <;> simp [Refusal.code]
  | some text =>
    refine .check fun b _ hIK => ⟨fun _ _ => hIK, fun e he => ⟨hIK.1, ?_⟩⟩
    obtain rfl := Identity.userId_eq_error he
    exact C.explains.refused (by simp [Refusal.code]) (by simp [Refusal.code]) b

/-- The attributes of an object show the handle that they were asked for under. -/
theorem ofMetadata_triple (h : Handle) (m : Metadata) :
    Act.Triple (fun b t => I b t ∧ K t) (Attributes.ofMetadata g.identities g.permissions h m)
      (fun a b t => I b t ∧ K t ∧ a.inode = h) (Fails I E) := by
  unfold Attributes.ofMetadata
  refine .bind (C.askUserId_triple m) fun _ => .bind (.note _ _ _) fun _ => ?_
  exact .pure fun _ _ ⟨hI, hK⟩ => ⟨hI, hK, rfl⟩

end Translation

theorem getAttributes_triple (h : Handle) :
    Act.Triple I (g.getAttributes h) (fun a b t => I b t ∧ t.Registered a.inode) (Fails I E) := by
  refine C.run_triple (.bind (C.resolve_triple h) fun p => ?_)
  refine C.session_triple (K := fun t => (h, p) ∈ t.entries) fun s => ?_
  refine .bind (C.call_triple (.stat s _)) fun m => (C.ofMetadata_triple h m).strengthen_post ?_
  rintro a b t ⟨hI, hmem, hinode⟩
  rw [hinode]
  exact ⟨hI, p, hmem⟩

theorem probe_triple (s : Session) (path : String) (mask : Num) :
    Act.Triple (fun b t => I b t ∧ K t) (Access.probe g.backend s path mask)
      (fun _ b t => I b t ∧ K t) (Fails I E) := by
  have asked : ∀ right, Act.Triple (fun b t => I b t ∧ K t) (Access.ask g.backend s path mask right)
      (fun _ b t => I b t ∧ K t) (Fails I E) := by
    intro right
    unfold Access.ask
    split
    · exact C.call_triple (.permits s right path)
    · exact .pure fun _ _ h => h
  unfold Access.probe
  refine .bind (asked .execute) fun _ => .bind (asked .write) fun write => ?_
  have noted : ∀ bits fields, Act.Triple (fun b t => I b t ∧ K t)
      (do Act.note .debug Access.probedMessage fields; pure bits : Act σ Nat)
      (fun _ b t => I b t ∧ K t) (Fails I E) :=
    fun _ _ => .bind (.note _ _ _) fun _ => .pure fun _ _ h => h
  -- Granted writing answers for reading; otherwise the backend is asked about it.
  cases write with
  | true => exact .bind (.pure fun _ _ h => h) fun read => noted _ _
  | false => exact .bind (asked .read) fun read => noted _ _

theorem checkAccess_triple (h : Handle) (mask : Num) :
    Act.Triple I (g.checkAccess h mask) (fun _ => I) (Fails I E) := by
  have checked : Act.Triple I (Act.check (Mode.check .mask mask)) (fun _ => I) (Fails I E) :=
    C.check_triple (fun _ _ hI => hI) fun _ he => Mode.code_of_check he
  refine C.run_triple (.bind checked fun _ => .bind (C.resolve_triple h) fun p => ?_)
  have probed := C.session_triple (K := fun _ => True) (Q := fun _ _ => True) fun s =>
    C.probe_triple s p.toText (Num.ofNat (mask.low32 &&& Mode.user))
  refine C.explain_triple (fun _ => rfl) (probed.consequence ?_ ?_ fun _ _ _ hF => hF)
  · rintro b t ⟨hI, -⟩
    exact ⟨hI, trivial⟩
  · rintro bits b t ⟨hI, -⟩
    exact hI

/-- A handle that is looked up without a look at its sign. -/
theorem pathOf_triple (h : Handle) :
    Act.Triple I (Act.look fun t => t.pathOf h) (fun p b t => I b t ∧ (h, p) ∈ t.entries)
      (Fails I E) := by
  refine .look fun b t hI => ⟨fun p hp => ?_, fun r hr => ⟨hI, ?_⟩⟩
  · exact ⟨hI, (C.coherent hI).pathGet?_iff.mp (Inodes.pathOf_eq_ok_iff.mp hp)⟩
  · have hcode : r.code = .notFound := by
      unfold Inodes.pathOf at hr
      grind [Refusal.code]
    exact C.explains.refused (by simp [hcode]) (by simp [hcode]) b

/-- The path of a new object is a child of a registered one. -/
theorem create_triple (parent : Handle) (name kind : String) (owner : Principal) (mode : Num) :
    Act.Triple I (g.create parent name kind owner mode) (fun h b t => I b t ∧ t.Registered h)
      (Fails I E) := by
  have checked : Act.Triple I (Act.check (Creation.check parent name kind owner mode))
      (fun _ => I) (Fails I E) :=
    C.check_triple (fun _ _ hI => hI) fun _ he => Creation.code_of_check he
  refine C.run_triple (.bind checked fun wanted => ?_)
  refine .bind (C.pathOf_triple parent) fun p => .bind (.note _ _ _) fun _ => ?_
  refine .bind (C.session_triple fun s => C.call_triple (.create s _ _)) fun _ => ?_
  refine .bind ((C.sightPath_triple lasting_true _).weaken_pre ?_) fun h => ?_
  · rintro b t ⟨hI, hmem⟩
    exact ⟨hI, C.child hI hmem wanted.name, trivial⟩
  refine .bind (.note _ _ _) fun _ => .bind (.note _ _ _) fun _ => .pure ?_
  rintro b t ⟨hI, hmem, -⟩
  exact ⟨hI, _, hmem⟩

section Listing

/-- A child that is gone is no failure. -/
theorem statOptional_triple (s : Session) (child : String) :
    Act.Triple (fun b t => I b t ∧ K t) (g.statOptional s child) (fun _ b t => I b t ∧ K t)
      (Fails I E) := by
  have described : Act.Triple (fun b t => I b t ∧ K t)
      (some <$> Act.call (g.backend.stat s child)) (fun _ b t => I b t ∧ K t)
      (fun f b t => (I b t ∧ K t) ∧ E f b) := by
    refine .map (.call fun b t ⟨hI, hK⟩ => ?_)
    have kept := C.call (.stat s child) hI
    exact ⟨fun _ _ => ⟨kept, hK⟩, fun _ hf => ⟨⟨kept, hK⟩, C.explains.call (.stat s child) hf⟩⟩
  -- The frame has to hold after a failure too: one that tells of a missing object is swallowed.
  refine .orMissing described (fun _ _ _ _ ⟨hIK, _⟩ => hIK) ?_
  rintro f b t - ⟨⟨hI, -⟩, hE⟩
  exact ⟨hI, hE⟩

def Shown (list : List DirectoryEntry) (t : Inodes) : Prop :=
  ∀ e ∈ list, t.Registered e.handle ∧ t.Registered e.attributes.inode

theorem entries_triple (s : Session) (children : List String) (hK : Lasting K) :
    Act.Triple (fun b t => I b t ∧ Admits A children t ∧ K t) (g.entries s children)
      (fun list b t => I b t ∧ K t ∧ Shown list t) (Fails I E) := by
  -- What later children change must not undo what is known of the handles shown before them; the
  -- frame `K` carries that through the induction.
  induction children generalizing K with
  | nil =>
    rw [Gateway.entries]
    refine .pure ?_
    rintro b t ⟨hI, -, ht⟩
    exact ⟨hI, ht, fun e he => absurd he List.not_mem_nil⟩
  | cons child rest ih =>
    rw [Gateway.entries]
    refine .bind (C.statOptional_triple s child) fun described => ?_
    cases described with
    | none =>
      refine .bind (.note _ _ _) fun _ => (ih hK).weaken_pre ?_
      rintro b t ⟨hI, hA, ht⟩
      exact ⟨hI, fun text htext => hA text (List.mem_cons_of_mem _ htext), ht⟩
    | some m =>
      have framed := Lasting.and (C.lasting_admits rest) hK
      refine .bind ((C.sight_triple framed child).weaken_pre ?_) fun h => ?_
      · rintro b t ⟨hI, hA, ht⟩
        exact ⟨hI, hA child List.mem_cons_self,
          fun text htext => hA text (List.mem_cons_of_mem _ htext), ht⟩
      refine .bind (C.check_triple (fun _ _ ⟨hI, _⟩ => hI) fun _ he =>
        Spelling.code_of_name he) fun name => ?_
      refine .bind (C.ofMetadata_triple h m) fun attributes => ?_
      have shown := Lasting.and (lasting_registered h) (lasting_registered attributes.inode)
      refine .bind ((ih (Lasting.and shown hK)).weaken_pre ?_) fun list => ?_
      · rintro b t ⟨hI, ⟨hh, hA, ht⟩, hinode⟩
        exact ⟨hI, hA, ⟨hh, hinode ▸ hh⟩, ht⟩
      refine .pure ?_
      rintro b t ⟨hI, ⟨hentry, ht⟩, hrest⟩
      exact ⟨hI, ht, List.forall_mem_cons.mpr ⟨hentry, hrest⟩⟩

theorem list_triple (h : Handle) :
    Act.Triple I (g.list h) (fun list b t => I b t ∧ Shown list t) (Fails I E) := by
  refine C.run_triple (.bind (C.resolve_triple h) fun p => C.session_triple fun s => ?_)
  refine .bind (M := fun children b t => I b t ∧ Admits A children t ∧ True) (.call ?_)
    fun children => (C.entries_triple s children lasting_true).strengthen_post ?_
  · rintro b t ⟨hI, hmem⟩
    have kept := C.call (.list s p.toText) hI
    refine ⟨fun children hlist => ?_, fun f hf => ?_⟩
    · exact ⟨kept, C.listed hI hmem s children hlist, trivial⟩
    · exact ⟨kept, C.explains.call (.list s p.toText) hf⟩
  · rintro list b t ⟨hI, -, hshown⟩
    exact ⟨hI, hshown⟩

end Listing

/-- The handle above is the root's, or that of a parent within the root. -/
theorem parentHandle_triple (h : Handle) (p : Path) :
    Act.Triple (fun b t => I b t ∧ (h, p) ∈ t.entries) (g.parentHandle p)
      (fun k b t => I b t ∧ t.Registered k) (Fails I E) := by
  have atRoot : Act.Triple (fun b t => I b t ∧ (h, p) ∈ t.entries) (pure Handle.root)
      (fun k b t => I b t ∧ t.Registered k) (Fails I E) :=
    .pure fun _ _ ⟨hI, _⟩ => ⟨hI, _, C.rooted hI⟩
  unfold Gateway.parentHandle
  split
  · exact atRoot
  · next hroot =>
    cases hparent : p.parent? with
    | none => exact atRoot
    | some q =>
      simp only
      split
      · next hwithin =>
        refine (C.sightPath_triple lasting_true q).consequence ?_ ?_ (fun _ _ _ hF => hF)
        · rintro b t ⟨hI, hmem⟩
          exact ⟨hI, C.parent hI hmem hroot hparent hwithin, trivial⟩
        · rintro k b t ⟨hI, hmem, -⟩
          exact ⟨hI, q, hmem⟩
      · exact atRoot

theorem lookup_triple (parent : Handle) (name : String) :
    Act.Triple I (g.lookup parent name) (fun h b t => I b t ∧ t.Registered h) (Fails I E) := by
  refine C.run_triple (.bind (C.resolve_triple parent) fun p => ?_)
  split
  · exact .pure fun _ _ ⟨hI, hmem⟩ => ⟨hI, p, hmem⟩
  · split
    · exact C.parentHandle_triple parent p
    · refine .bind (C.check_triple (fun _ _ ⟨hI, _⟩ => hI) fun _ he =>
        Name.code_of_ofText he) fun n => ?_
      refine .bind (C.session_triple fun s => C.call_triple (.stat s _)) fun _ => ?_
      refine (C.sightPath_triple lasting_true _).consequence ?_ ?_ (fun _ _ _ hF => hF)
      · rintro b t ⟨hI, hmem⟩
        exact ⟨hI, C.child hI hmem n, trivial⟩
      · rintro h b t ⟨hI, hmem, -⟩
        exact ⟨hI, _, hmem⟩

theorem parentOf_triple (h : Handle) :
    Act.Triple I (g.parentOf h) (fun k b t => I b t ∧ t.Registered k) (Fails I E) :=
  C.run_triple (.bind (C.resolve_triple h) fun p => C.parentHandle_triple h p)

theorem statistics_triple : Act.Triple I g.statistics (fun _ => I) (Fails I E) := by
  have told : Act.Triple (fun b t => I b t ∧ True) (Act.withSession g.backend g.space)
      (fun _ b t => I b t ∧ True) (Fails I E) := by
    refine C.session_triple (K := fun _ => True) fun s => ?_
    unfold Gateway.space
    cases hcapacity : g.backend.capacity with
    | none => exact .pure fun _ _ h => h
    | some capacity => exact C.call_triple (.capacity hcapacity s)
  refine C.run_triple (.bind (told.weaken_pre fun _ _ hI => ⟨hI, trivial⟩) fun space => ?_)
  refine .bind (M := fun _ b t => I b t) (.look fun b t ⟨hI, _⟩ => ?_) fun _ => .pure fun _ _ h => h
  exact ⟨fun _ _ => hI, nofun⟩

theorem commit_triple (h : Handle) :
    Act.Triple I (g.commit h) (fun _ => I) (Fails I E) :=
  C.run_triple (.bind (C.resolve_triple h) fun _ => .pure fun _ _ ⟨hI, _⟩ => hI)

theorem decline_triple (operation : Operation) (handles : List Handle) :
    Act.Triple I (g.decline operation handles) (fun _ => I) (Fails I E) := by
  have resolved : Act.Triple I (resolveAll handles) (fun _ => I) (Fails I E) := by
    induction handles with
    | nil => exact .pure fun _ _ hI => hI
    | cons h rest ih =>
      exact .bind ((C.resolve_triple h).strengthen_post fun _ _ _ ⟨hI, _⟩ => hI) fun _ => ih
  refine C.run_triple (.bind resolved fun _ => .fail fun b _ hI => ⟨hI, ?_⟩)
  exact C.explains.refused (by simp [Refusal.code]) (by simp [Refusal.code]) b

/-- Every operation keeps the invariant, answers with registered handles only, and explains its
failure. -/
theorem perform_triple (r : Request) :
    Act.Triple I (g.perform r) (fun answer b t => I b t ∧ ∀ h ∈ answer.handles, t.Registered h)
      (Fails I E) := by
  have one : ∀ (k : Handle) b t, I b t ∧ t.Registered k →
      I b t ∧ ∀ h ∈ [k], t.Registered h := by
    rintro k b t ⟨hI, hk⟩
    exact ⟨hI, fun h hh => List.mem_singleton.mp hh ▸ hk⟩
  have none_told : ∀ b t, I b t → I b t ∧ ∀ h ∈ ([] : List Handle), t.Registered h :=
    fun b t hI => ⟨hI, nofun⟩
  cases r with
  | getAttributes h => exact .map ((C.getAttributes_triple h).strengthen_post fun a => one a.inode)
  | checkAccess h mask =>
    exact .map ((C.checkAccess_triple h mask).strengthen_post fun _ => none_told)
  | create parent name kind owner mode =>
    exact .map ((C.create_triple parent name kind owner mode).strengthen_post one)
  | list h =>
    refine .map ((C.list_triple h).strengthen_post ?_)
    rintro list b t ⟨hI, hshown⟩
    refine ⟨hI, fun k hk => ?_⟩
    obtain ⟨e, he, hk⟩ := List.mem_flatMap.mp hk
    obtain rfl | rfl : k = e.handle ∨ k = e.attributes.inode := by simpa using hk
    · exact (hshown e he).1
    · exact (hshown e he).2
  | lookup parent name => exact .map ((C.lookup_triple parent name).strengthen_post one)
  | parentOf h => exact .map ((C.parentOf_triple h).strengthen_post one)
  | statistics => exact .map (C.statistics_triple.strengthen_post fun _ => none_told)
  | commit h => exact .map ((C.commit_triple h).strengthen_post fun _ => none_told)
  | unoffered what =>
    exact .map ((C.decline_triple what.operation what.handles).strengthen_post fun _ => none_told)

end Gateway.Contract

end InodeGateway
