import InodeGateway.Proofs.World.Session

/-!
# Triples for actions

What an action makes of the backend and of the table of inodes, said by assertions about these two
parts of the world.  The journal and the observer take no part in it: writing a record changes
neither.

## Main definitions

* `Call.Leads` — what a call makes of the state of the backend
* `Assertion` — a predicate on the state of the backend and the table
* `Act.Triple` — from worlds where one assertion holds, an action ends where others hold
* `Act.Leaves` — an action leaves the table as it is

## Design notes

An action ends with an answer or with a failure, and each ending has an assertion of its own.  A
failure ends all that follows it except the release of the session, so that the assertion on
failures is the same throughout a sequence.
-/

namespace InodeGateway

/-- What a call makes of a state: `post` holds after an answer, `fails` after a failure. -/
def Call.Leads {σ α : Type} (c : Call σ α) (b : σ) (post : α → σ → Prop)
    (fails : Failure → σ → Prop) : Prop :=
  (∀ x, (c.answer b).1 = .ok x → post x (c.answer b).2) ∧
    ∀ f, (c.answer b).1 = .error f → fails f (c.answer b).2

/-- A predicate on the state of the backend and the table of inodes. -/
abbrev Assertion (σ : Type) := σ → Inodes → Prop

namespace Act

variable {σ α β : Type} {pre pre' : Assertion σ} {fails fails' : Failure → Assertion σ}

/-- Started in a world where `pre` holds, the action ends in one where `post` holds of its answer,
or where `fails` holds of its failure. -/
def Triple (pre : Assertion σ) (a : Act σ α) (post : α → Assertion σ)
    (fails : Failure → Assertion σ) : Prop :=
  ∀ w : World σ, pre w.backend w.inodes →
    match a.answer w with
    | (.ok x, after) => post x after.backend after.inodes
    | (.error failure, after) => fails failure after.backend after.inodes

/-- The action leaves the table `t` as it is, whatever its outcome. -/
abbrev Leaves (t : Inodes) (a : Act σ α) : Prop :=
  Triple (fun _ t' => t' = t) a (fun _ _ t' => t' = t) fun _ _ t' => t' = t

namespace Triple

variable {a : Act σ α} {post post' : α → Assertion σ}

/-- Weaken the precondition and strengthen what holds at either end. -/
theorem consequence (h : Triple pre a post fails) (hpre : ∀ b t, pre' b t → pre b t)
    (hpost : ∀ x b t, post x b t → post' x b t)
    (hfails : ∀ f b t, fails f b t → fails' f b t) : Triple pre' a post' fails' := by
  intro w hw
  have ends := h w (hpre _ _ hw)
  rcases heq : a.answer w with ⟨f | x, after⟩
  · rw [heq] at ends
    exact hfails _ _ _ ends
  · rw [heq] at ends
    exact hpost _ _ _ ends

/-- What holds at either end holds afterwards. -/
theorem ends {Q : Assertion σ} (h : Triple pre a (fun _ => Q) fun _ => Q) {w : World σ}
    (hw : pre w.backend w.inodes) : Q (a.answer w).2.backend (a.answer w).2.inodes := by
  have after := h w hw
  rcases heq : a.answer w with ⟨f | x, w'⟩ <;> rw [heq] at after <;> exact after

/-- The action is answered or fails, and what is said of that end holds afterwards. -/
theorem outcome (h : Triple pre a post fails) {w : World σ} (hw : pre w.backend w.inodes) :
    (∃ x, (a.answer w).1 = .ok x ∧ post x (a.answer w).2.backend (a.answer w).2.inodes) ∨
      ∃ f, (a.answer w).1 = .error f ∧
        fails f (a.answer w).2.backend (a.answer w).2.inodes := by
  have after := h w hw
  rcases heq : a.answer w with ⟨f | x, w'⟩ <;> rw [heq] at after
  · exact .inr ⟨f, rfl, after⟩
  · exact .inl ⟨x, rfl, after⟩

theorem weaken_pre (h : Triple pre a post fails) (hpre : ∀ b t, pre' b t → pre b t) :
    Triple pre' a post fails :=
  h.consequence hpre (fun _ _ _ h => h) (fun _ _ _ h => h)

theorem strengthen_post (h : Triple pre a post fails)
    (hpost : ∀ x b t, post x b t → post' x b t) : Triple pre a post' fails :=
  h.consequence (fun _ _ h => h) hpost (fun _ _ _ h => h)

theorem weaken_fails (h : Triple pre a post fails)
    (hfails : ∀ f b t, fails f b t → fails' f b t) : Triple pre a post fails' :=
  h.consequence (fun _ _ h => h) (fun _ _ _ h => h) hfails

/-- What a precondition says regardless of the world may be assumed. -/
theorem assuming {P : Prop} (h : P → Triple pre a post fails) :
    Triple (fun b t => pre b t ∧ P) a post fails :=
  fun w ⟨hw, hP⟩ => h hP w hw

/-- What a precondition says to exist may be given. -/
theorem given {κ : Type} {P : κ → Assertion σ} (h : ∀ k, Triple (P k) a post fails) :
    Triple (fun b t => ∃ k, P k b t) a post fails :=
  fun w ⟨k, hw⟩ => h k w hw

theorem pure {x : α} (h : ∀ b t, pre b t → post x b t) :
    Triple pre (Pure.pure x : Act σ α) post fails :=
  fun _ hw => h _ _ hw

theorem fail {f : Failure} (h : ∀ b t, pre b t → fails f b t) :
    Triple pre (Call.fail f : Act σ α) post fails :=
  fun _ hw => h _ _ hw

theorem bind {M : α → Assertion σ} {k : α → Act σ β} {post : β → Assertion σ}
    (ha : Triple pre a M fails) (hk : ∀ x, Triple (M x) (k x) post fails) :
    Triple pre (a >>= k) post fails := by
  intro w hw
  have first := ha w hw
  rw [Call.answer_bind]
  rcases heq : a.answer w with ⟨f | x, after⟩
  · rw [heq] at first
    exact first
  · rw [heq] at first
    exact hk x after first

theorem map {f : α → β} {post : β → Assertion σ}
    (ha : Triple pre a (fun x => post (f x)) fails) : Triple pre (f <$> a) post fails := by
  rw [map_eq_pure_bind]
  exact ha.bind fun x => pure fun _ _ h => h

theorem note (level : Journal.Level) (message : String) (fields : Journal.Fields) :
    Triple pre (note level message fields : Act σ Unit) (fun _ => pre) fails :=
  fun _ hw => hw

/-- A call on the backend leaves the table alone. -/
theorem call {c : Call σ α}
    (h : ∀ b t, pre b t →
      (∀ x, (c.answer b).1 = .ok x → post x (c.answer b).2 t) ∧
      (∀ f, (c.answer b).1 = .error f → fails f (c.answer b).2 t)) :
    Triple pre (call c) post fails := by
  intro w hw
  obtain ⟨hok, herror⟩ := h _ _ hw
  rw [answer_call]
  rcases heq : (c.answer w.backend).1 with f | x
  · exact herror f heq
  · exact hok x heq

/-- A call that is answered. -/
theorem call_ok {c : Call σ α}
    (h : ∀ b t, pre b t → ∃ x after, c.answer b = (.ok x, after) ∧ post x after t) :
    Triple pre (Act.call c) post fails := by
  refine call fun b t hb => ?_
  obtain ⟨x, after, heq, hx⟩ := h b t hb
  rw [heq]
  refine ⟨fun x' hx' => ?_, nofun⟩
  cases hx'
  exact hx

/-- A call that fails. -/
theorem call_error {c : Call σ α}
    (h : ∀ b t, pre b t → ∃ f after, c.answer b = (.error f, after) ∧ fails f after t) :
    Triple pre (Act.call c) post fails := by
  refine call fun b t hb => ?_
  obtain ⟨f, after, heq, hf⟩ := h b t hb
  rw [heq]
  refine ⟨nofun, fun f' hf' => ?_⟩
  cases hf'
  exact hf

/-- What a call leads to, the action of making it leads to. -/
theorem leads {P : σ → Prop} {c : Call σ α} {post : α → σ → Prop} {fails : Failure → σ → Prop}
    (h : ∀ b, P b → c.Leads b post fails) :
    Triple (fun b _ => P b) (Act.call c) (fun x b _ => post x b) (fun e b _ => fails e b) :=
  call fun b _ hb => h b hb

/-- A step on the table leaves the backend alone. -/
theorem table {f : Inodes → Except Refusal α × Inodes}
    (h : ∀ b t, pre b t →
      (∀ x, (f t).1 = .ok x → post x b (f t).2) ∧
      (∀ r, (f t).1 = .error r → fails r.failure b (f t).2)) :
    Triple pre (table f) post fails := by
  intro w hw
  obtain ⟨hok, herror⟩ := h _ _ hw
  rw [answer_table]
  rcases heq : (f w.inodes).1 with r | x
  · exact herror r heq
  · exact hok x heq

/-- A step on the table that succeeds. -/
theorem table_ok {f : Inodes → Except Refusal α × Inodes}
    (h : ∀ b t, pre b t → ∃ x after, f t = (.ok x, after) ∧ post x b after) :
    Triple pre (Act.table f) post fails := by
  refine table fun b t hb => ?_
  obtain ⟨x, after, heq, hx⟩ := h b t hb
  rw [heq]
  refine ⟨fun x' hx' => ?_, nofun⟩
  cases hx'
  exact hx

theorem look {f : Inodes → Except Refusal α}
    (h : ∀ b t, pre b t →
      (∀ x, f t = .ok x → post x b t) ∧ (∀ r, f t = .error r → fails r.failure b t)) :
    Triple pre (look f) post fails :=
  table h

theorem check {r : Except Refusal α}
    (h : ∀ b t, pre b t →
      (∀ x, r = .ok x → post x b t) ∧ (∀ e, r = .error e → fails e.failure b t)) :
    Triple pre (check r) post fails := by
  intro w hw
  obtain ⟨hok, herror⟩ := h _ _ hw
  cases r with
  | error e => exact herror e rfl
  | ok x => exact hok x rfl

/-- After a check that passes, the action goes on with what was found. -/
theorem check_bind {r : Except Refusal α} {x : α} {k : α → Act σ β} {post : β → Assertion σ}
    (hr : r = .ok x) (hk : Triple pre (k x) post fails) :
    Triple pre (Act.check r >>= k) post fails := by
  subst hr
  exact fun w hw => hk w hw

theorem explain {f : Failure → Failure} (h : Triple pre a post fun e => fails (f e)) :
    Triple pre (a.explain f) post fails := by
  intro w hw
  have ends := h w hw
  rw [answer_explain]
  rcases heq : a.answer w with ⟨e | x, after⟩ <;> rw [heq] at ends <;> exact ends

/-- An object that the backend does not know is no failure; any other failure stays one. -/
theorem orMissing {default : α} (h : Triple pre a post fails)
    (hmissing : ∀ f b t, f.isMissing → fails f b t → post default b t)
    (hother : ∀ f b t, ¬ f.isMissing → fails f b t → fails' f b t) :
    Triple pre (a.orMissing default) post fails' := by
  intro w hw
  have ends := h w hw
  rw [Act.orMissing, Call.answer_of]
  rcases heq : a.answer w with ⟨e | x, after⟩
  · rw [heq] at ends
    cases hm : e.isMissing with
    | true => simpa [hm] using hmissing e _ _ hm ends
    | false => simpa [hm] using hother e _ _ (by simp [hm]) ends
  · rw [heq] at ends
    exact ends

/-- What holds at the ends of the body has to outlast the release of the session, however that
ends. -/
theorem withSession {b : Backend σ} {body : Session → Act σ α} {opened : Session → Assertion σ}
    {worked : Session → α → Assertion σ} {failed : Session → Failure → Assertion σ}
    (hopen : Triple pre (Act.call b.openSession) opened fails)
    (hbody : ∀ s, Triple (opened s) (body s) (worked s) (failed s))
    (hworked : ∀ s x b' t, worked s x b' t → post x ((b.release s).answer b').2 t)
    (hfailed : ∀ s f b' t, failed s f b' t → fails f ((b.release s).answer b').2 t) :
    Triple pre (withSession b body) post fails := by
  intro w hw
  have start := hopen w hw
  rw [answer_withSession]
  rcases heq : (Act.call b.openSession).answer w with ⟨f | s, during⟩ <;> rw [heq] at start
  · exact start
  · -- The release answers or fails; either way the ending of the body is what counts.
    have ends := hbody s during start
    rcases heq : (body s).answer during with ⟨f | x, after⟩ <;> rw [heq] at ends
    · simpa only [heq, World.backend_afterRelease, World.inodes_afterRelease] using
        hfailed s f _ _ ends
    · simpa only [heq, World.backend_afterRelease, World.inodes_afterRelease] using
        hworked s x _ _ ends

end Triple

namespace Leaves

variable {t : Inodes}

theorem pure (x : α) : Leaves t (Pure.pure x : Act σ α) :=
  Triple.pure fun _ _ ht => ht

theorem bind {a : Act σ α} {k : α → Act σ β} (ha : Leaves t a) (hk : ∀ x, Leaves t (k x)) :
    Leaves t (a >>= k) :=
  Triple.bind ha hk

/-- A call goes to the backend only. -/
theorem call (c : Call σ α) : Leaves t (Act.call c) :=
  Triple.call fun _ _ ht => ⟨fun _ _ => ht, fun _ _ => ht⟩

/-- A session leaves the table as it is if what is done within it does. -/
theorem withSession (b : Backend σ) {body : Session → Act σ α} (hbody : ∀ s, Leaves t (body s)) :
    Leaves t (Act.withSession b body) :=
  Triple.withSession (call b.openSession) hbody (fun _ _ _ _ ht => ht) fun _ _ _ _ ht => ht

end Leaves

end Act

end InodeGateway
