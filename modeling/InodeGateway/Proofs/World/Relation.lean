import InodeGateway.Proofs.World.Session

/-!
# Actions side by side

Two actions are compared by a relation of the backends and the tables that they are started with.
Either both answer, and their answers and what they leave are related, or both fail with the same
failure.  Journals are not compared: they tell handles, and handles may differ.

## Main definitions

* `Relation` — a relation of two backends and two tables
* `Call.Relates`, `Act.Relates` — calls and actions that go alike on both sides

## Main statements

* `Act.Relates.bind`, `Act.Relates.withSession` — the rules for sequences and sessions
-/

namespace InodeGateway

/-- A relation of two backends and two tables. -/
abbrev Relation (σ τ : Type) := σ → Inodes → τ → Inodes → Prop

variable {σ τ α β α' β' : Type}

/-- Started in related states, both calls answer, with what `post` relates, or both fail with the
same failure, in states that `fails` relates. -/
def Call.Relates (pre : σ → τ → Prop) (c : Call σ α) (c' : Call τ α')
    (post : α → α' → σ → τ → Prop) (fails : σ → τ → Prop) : Prop :=
  ∀ b b', pre b b' →
    (∃ x x' v v', c.answer b = (.ok x, v) ∧ c'.answer b' = (.ok x', v') ∧ post x x' v v') ∨
      ∃ e v v', c.answer b = (.error e, v) ∧ c'.answer b' = (.error e, v') ∧ fails v v'

/-- Both calls give the same answer or fail with the same failure, and the states stay related. -/
abbrev Call.Twins (P : σ → τ → Prop) (c : Call σ α) (c' : Call τ α) : Prop :=
  Call.Relates P c c' (fun x x' b b' => P b b' ∧ x' = x) P

/-- The same call goes alike from equal states. -/
theorem Call.twins_self {P : Prop} {c c' : Call σ α} (h : P → c' = c) :
    Call.Twins (fun b b' => P ∧ b' = b) c c' := by
  rintro _ b ⟨hP, rfl⟩
  rw [h hP]
  rcases heq : c.answer b with ⟨e | x, v⟩
  · exact .inr ⟨e, v, v, rfl, rfl, hP, rfl⟩
  · exact .inl ⟨x, x, v, v, rfl, rfl, ⟨hP, rfl⟩, rfl⟩

namespace Act

/-- Started in worlds with related backends and tables, both actions answer, with what `post`
relates, or both fail with the same failure, and `fails` relates what they leave. -/
def Relates (pre : Relation σ τ) (a : Act σ α) (a' : Act τ α') (post : α → α' → Relation σ τ)
    (fails : Relation σ τ) : Prop :=
  ∀ w w', pre w.backend w.inodes w'.backend w'.inodes →
    (∃ x x' v v', a.answer w = (.ok x, v) ∧ a'.answer w' = (.ok x', v') ∧
        post x x' v.backend v.inodes v'.backend v'.inodes) ∨
      ∃ e v v', a.answer w = (.error e, v) ∧ a'.answer w' = (.error e, v') ∧
        fails v.backend v.inodes v'.backend v'.inodes

namespace Relates

variable {pre pre' fails fails' : Relation σ τ} {a : Act σ α} {a' : Act τ α'}
  {post post' : α → α' → Relation σ τ}

theorem consequence (h : Relates pre a a' post fails)
    (hpre : ∀ b t b' t', pre' b t b' t' → pre b t b' t')
    (hpost : ∀ x x' b t b' t', post x x' b t b' t' → post' x x' b t b' t')
    (hfails : ∀ b t b' t', fails b t b' t' → fails' b t b' t') :
    Relates pre' a a' post' fails' := by
  intro w w' hw
  rcases h w w' (hpre _ _ _ _ hw) with ⟨x, x', v, v', heq, heq', ends⟩ | ⟨e, v, v', heq, heq', ends⟩
  · exact .inl ⟨x, x', v, v', heq, heq', hpost _ _ _ _ _ _ ends⟩
  · exact .inr ⟨e, v, v', heq, heq', hfails _ _ _ _ ends⟩

/-- What a precondition says regardless of the worlds may be assumed. -/
theorem assuming {P : Prop} (h : P → Relates pre a a' post fails) :
    Relates (fun b t b' t' => pre b t b' t' ∧ P) a a' post fails :=
  fun w w' ⟨hw, hP⟩ => h hP w w' hw

theorem pure {x : α} {x' : α'} (h : ∀ b t b' t', pre b t b' t' → post x x' b t b' t') :
    Relates pre (Pure.pure x : Act σ α) (Pure.pure x' : Act τ α') post fails :=
  fun w w' hw => .inl ⟨x, x', w, w', rfl, rfl, h _ _ _ _ hw⟩

theorem fail {f : Failure} (h : ∀ b t b' t', pre b t b' t' → fails b t b' t') :
    Relates pre (Call.fail f : Act σ α) (Call.fail f : Act τ α') post fails :=
  fun w w' hw => .inr ⟨f, w, w', rfl, rfl, h _ _ _ _ hw⟩

theorem bind {k : α → Act σ β} {k' : α' → Act τ β'} {mid : α → α' → Relation σ τ}
    {post : β → β' → Relation σ τ} (ha : Relates pre a a' mid fails)
    (hk : ∀ x x', Relates (mid x x') (k x) (k' x') post fails) :
    Relates pre (a >>= k) (a' >>= k') post fails := by
  intro w w' hw
  rw [Call.answer_bind, Call.answer_bind]
  rcases ha w w' hw with ⟨x, x', v, v', heq, heq', ends⟩ | ⟨e, v, v', heq, heq', ends⟩
  · rw [heq, heq']
    exact hk x x' v v' ends
  · rw [heq, heq']
    exact .inr ⟨e, v, v', rfl, rfl, ends⟩

theorem map {f : α → β} {f' : α' → β'} {post : β → β' → Relation σ τ}
    (ha : Relates pre a a' (fun x x' => post (f x) (f' x')) fails) :
    Relates pre (f <$> a) (f' <$> a') post fails := by
  rw [map_eq_pure_bind, map_eq_pure_bind]
  exact ha.bind fun x x' => pure fun _ _ _ _ h => h

/-- Records need not be the same. -/
theorem note {level level' : Journal.Level} {message message' : String}
    {fields fields' : Journal.Fields} :
    Relates pre (note level message fields : Act σ Unit)
      (Act.note level' message' fields' : Act τ Unit) (fun _ _ => pre) fails :=
  fun _ _ hw => .inl ⟨(), (), _, _, rfl, rfl, hw⟩

theorem check (r : Except Refusal α) (h : ∀ b t b' t', pre b t b' t' → fails b t b' t') :
    Relates pre (Act.check r : Act σ α) (Act.check r : Act τ α)
      (fun x x' b t b' t' => pre b t b' t' ∧ x' = x) fails := by
  cases r with
  | error e => exact fail h
  | ok x => exact pure fun _ _ _ _ hw => ⟨hw, rfl⟩

/-- Calls leave the tables alone. -/
theorem call {P : σ → τ → Prop} {Q : α → α' → σ → τ → Prop} {F : σ → τ → Prop} {c : Call σ α}
    {c' : Call τ α'} (h : Call.Relates P c c' Q F) (K : Inodes → Inodes → Prop) :
    Relates (fun b t b' t' => P b b' ∧ K t t') (Act.call c) (Act.call c')
      (fun x x' b t b' t' => Q x x' b b' ∧ K t t') fun b t b' t' => F b b' ∧ K t t' := by
  rintro w w' ⟨hw, hK⟩
  rw [answer_call, answer_call]
  rcases h _ _ hw with ⟨x, x', v, v', heq, heq', ends⟩ | ⟨e, v, v', heq, heq', ends⟩
  · rw [heq, heq']
    exact .inl ⟨x, x', _, _, rfl, rfl, ends, hK⟩
  · rw [heq, heq']
    exact .inr ⟨e, _, _, rfl, rfl, ends, hK⟩

/-- Steps on the tables leave the backends alone. -/
theorem table {f : Inodes → Except Refusal α × Inodes} {f' : Inodes → Except Refusal α' × Inodes}
    (h : ∀ b t b' t', pre b t b' t' →
      (∃ x x' v v', f t = (.ok x, v) ∧ f' t' = (.ok x', v') ∧ post x x' b v b' v') ∨
        ∃ r v v', f t = (.error r, v) ∧ f' t' = (.error r, v') ∧ fails b v b' v') :
    Relates pre (table f) (Act.table f') post fails := by
  intro w w' hw
  rw [answer_table, answer_table]
  rcases h _ _ _ _ hw with ⟨x, x', v, v', heq, heq', ends⟩ | ⟨r, v, v', heq, heq', ends⟩
  · rw [heq, heq']
    exact .inl ⟨x, x', _, _, rfl, rfl, ends⟩
  · rw [heq, heq']
    exact .inr ⟨r.failure, _, _, rfl, rfl, ends⟩

theorem explain (f : Failure → Failure) (h : Relates pre a a' post fails) :
    Relates pre (a.explain f) (a'.explain f) post fails := by
  intro w w' hw
  rw [answer_explain, answer_explain]
  rcases h w w' hw with ⟨x, x', v, v', heq, heq', ends⟩ | ⟨e, v, v', heq, heq', ends⟩
  · rw [heq, heq']
    exact .inl ⟨x, x', v, v', rfl, rfl, ends⟩
  · rw [heq, heq']
    exact .inr ⟨f e, v, v', rfl, rfl, ends⟩

/-- An object that is missing on one side is missing on the other. -/
theorem orMissing {default : α} {default' : α'} (h : Relates pre a a' post fails)
    (hmissing : ∀ b t b' t', fails b t b' t' → post default default' b t b' t') :
    Relates pre (a.orMissing default) (a'.orMissing default') post fails := by
  intro w w' hw
  rw [Act.orMissing, Act.orMissing, Call.answer_of, Call.answer_of]
  rcases h w w' hw with ⟨x, x', v, v', heq, heq', ends⟩ | ⟨e, v, v', heq, heq', ends⟩
  · rw [heq, heq']
    exact .inl ⟨x, x', v, v', rfl, rfl, ends⟩
  · rw [heq, heq']
    cases hm : e.isMissing with
    | true => exact .inl ⟨default, default', v, v', by simp [hm], by simp [hm],
        hmissing _ _ _ _ ends⟩
    | false => exact .inr ⟨e, v, v', by simp [hm], by simp [hm], ends⟩

/-- The sessions need not have the same number, and their releases need not both succeed. -/
theorem withSession {b : Backend σ} {b' : Backend τ} {body : Session → Act σ α}
    {body' : Session → Act τ α'} {opened : Session → Session → Relation σ τ}
    {worked : Session → Session → α → α' → Relation σ τ} {failed : Session → Session → Relation σ τ}
    (hopen : Relates pre (Act.call b.openSession) (Act.call b'.openSession) opened fails)
    (hbody : ∀ s s', Relates (opened s s') (body s) (body' s') (worked s s') (failed s s'))
    (hworked : ∀ s s' x x' v t v' t', worked s s' x x' v t v' t' →
      post x x' ((b.release s).answer v).2 t ((b'.release s').answer v').2 t')
    (hfailed : ∀ s s' v t v' t', failed s s' v t v' t' →
      fails ((b.release s).answer v).2 t ((b'.release s').answer v').2 t') :
    Relates pre (withSession b body) (Act.withSession b' body') post fails := by
  intro w w' hw
  rw [answer_withSession, answer_withSession]
  rcases hopen w w' hw with ⟨s, s', v, v', heq, heq', opens⟩ | ⟨e, v, v', heq, heq', ends⟩
  · rw [heq, heq']
    rcases hbody s s' v v' opens with ⟨x, x', u, u', heq, heq', ends⟩ | ⟨e, u, u', heq, heq', ends⟩
    · have released := hworked s s' x x' _ _ _ _ ends
      refine .inl ⟨x, x', u.afterRelease b s, u'.afterRelease b' s', ?_, ?_, ?_⟩
      · simp only [heq]
      · simp only [heq']
      · simpa only [World.backend_afterRelease, World.inodes_afterRelease] using released
    · have released := hfailed s s' _ _ _ _ ends
      refine .inr ⟨e, u.afterRelease b s, u'.afterRelease b' s', ?_, ?_, ?_⟩
      · simp only [heq]
      · simp only [heq']
      · simpa only [World.backend_afterRelease, World.inodes_afterRelease] using released
  · rw [heq, heq']
    exact .inr ⟨e, v, v', rfl, rfl, ends⟩

end Relates

end Act

end InodeGateway
