import InodeGateway.Proofs.Gateway.Mirror
import InodeGateway.Proofs.Path.Spellings
import InodeGateway.Proofs.World.Relation
import Mathlib.Data.List.Forall2

/-!
# Children under other spellings

A gateway reads every path that its backend tells it of before anything is done with it.  A backend
that spells the children of its directories in another way is answered alike; only the records of
children that are gone tell them as they were spelled.

## Main definitions

* `Journal.Record.Alike`, `World.Alike` — the same but for spellings in the records of such children
* `Call.ListsAlike` — two listings that differ in spellings alone
* `Gateway.Respells` — two gateways whose backends differ in their listings alone

## Main statements

* `Gateway.mirrors_self` — a gateway goes alike in alike worlds
* `Gateway.Respells.perform_agree` — gateways that differ in spellings answer alike
-/

namespace InodeGateway

variable {σ α : Type}

/-- The record of a child that is gone by the time its directory is listed. -/
def Gateway.vanished (child : String) : Journal.Record :=
  ⟨.debug, "child vanished during listing", [("path", child)]⟩

/-- The same record, or records of the same child that is gone, under two spellings. -/
def Journal.Record.Alike (r r' : Journal.Record) : Prop :=
  r' = r ∨ ∃ a b, Spelling.Alike a b ∧ r = Gateway.vanished a ∧ r' = Gateway.vanished b

/-- The same world, but for the spellings of children that are gone in the journal. -/
structure World.Alike (w w' : World σ) : Prop where
  backend : w'.backend = w.backend
  inodes : w'.inodes = w.inodes
  journal : List.Forall₂ Journal.Record.Alike w.journal w'.journal
  observed : w'.observed = w.observed

/-- Both listings tell the same children under spellings that are alike, or fail alike; they leave
the same. -/
abbrev Call.ListsAlike (c c' : Call σ (List String)) : Prop :=
  Call.Relates (fun b b' => b' = b) c c'
    (fun texts texts' b b' => List.Forall₂ Spelling.Alike texts texts' ∧ b' = b) fun b b' => b' = b

namespace World.Alike

open Act (Agree)

theorem noting {w w' : World σ} (h : w.Alike w') {r r' : Journal.Record} (hr : r.Alike r') :
    Alike { w with journal := w.journal ++ [r] } { w' with journal := w'.journal ++ [r'] } :=
  ⟨h.backend, h.inodes, List.rel_append h.journal (.cons hr .nil), h.observed⟩

theorem alongside : Act.Alongside (Alike (σ := σ)) where
  inodes h := h.inodes
  setInodes h _ := ⟨h.backend, rfl, h.journal, h.observed⟩
  note h _ _ _ := h.noting (.inl rfl)
  observe h _ _ := ⟨h.backend, h.inodes, h.journal, by simp only [World.observe, h.observed]⟩

theorem call_agree (c : Call σ α) : Agree Alike (Act.call c) (Act.call c) := by
  intro w w' h
  rw [Act.answer_call, Act.answer_call, h.backend]
  exact ⟨rfl, rfl, h.inodes, h.journal, h.observed⟩

end World.Alike

namespace Gateway

open Act (Agree)

/-- A gateway goes alike in alike worlds. -/
theorem mirrors_self (g : Gateway σ) : g.Mirrors g World.Alike where
  alongside := World.Alike.alongside
  permissions := rfl
  rootPath := rfl
  openSession := World.Alike.call_agree _
  stat _ _ := World.Alike.call_agree _
  permits _ _ _ := World.Alike.call_agree _
  create _ _ _ := World.Alike.call_agree _
  list _ _ := World.Alike.call_agree _
  space s := by
    unfold space
    cases g.backend.capacity with
    | none => exact .pure _
    | some c => exact World.Alike.call_agree _
  release s w w' h := by
    unfold World.afterRelease
    rcases (World.Alike.call_agree (g.backend.release s)).outcome h with
      ⟨f, v, v', heq, heq', after⟩ | ⟨_, v, v', heq, heq', after⟩
    · rw [heq, heq']
      exact World.Alike.alongside.note after _ _ _
    · rw [heq, heq']
      exact after
  identity _ := World.Alike.call_agree _

/-- The backends of the gateways differ in their listings alone, which tell the same children under
other spellings.  The backend looks at paths, whatever their spelling. -/
structure Respells (g g' : Gateway σ) : Prop where
  rest : g' = { g with backend := { g.backend with list := g'.backend.list } }
  stat : ∀ s {a b}, Spelling.Alike a b → g.backend.stat s b = g.backend.stat s a
  list : ∀ s text, Call.ListsAlike (g.backend.list s text) (g'.backend.list s text)

namespace Respells

variable {g g' : Gateway σ}

theorem session_agree (h : g.Respells g') {body body' : Session → Act σ α}
    (hbody : ∀ s, Agree World.Alike (body s) (body' s)) :
    Agree World.Alike (Act.withSession g.backend body) (Act.withSession g'.backend body') := by
  rw [h.rest]
  exact g.mirrors_self.session_agree hbody

/-- Children under other spellings make the same entries. -/
theorem entries_agree (h : g.Respells g') (s : Session) {children children' : List String}
    (halike : List.Forall₂ Spelling.Alike children children') :
    Agree World.Alike (g.entries s children) (g'.entries s children') := by
  have M := g.mirrors_self
  induction halike with
  | nil => exact .pure _
  | @cons child child' rest rest' hchild _ ih =>
    have looked : Agree World.Alike (g.statOptional s child) (g'.statOptional s child') := by
      rw [h.rest]
      simp only [statOptional, h.stat s hchild]
      exact .orMissing _ (.map _ (M.stat s child))
    refine .bind looked fun described => ?_
    cases described with
    | none =>
      have noted : Agree World.Alike
          (Act.note .debug "child vanished during listing" [("path", child)] : Act σ Unit)
          (Act.note .debug "child vanished during listing" [("path", child')]) :=
        fun w w' hw => ⟨rfl, hw.noting (.inr ⟨child, child', hchild, rfl, rfl⟩)⟩
      exact .bind noted fun _ => ih
    | some m =>
      have sighted : Agree World.Alike (sight child : Act σ Handle) (sight child') := by
        simp only [sight, Inodes.sight, hchild.ofText_eq]
        exact M.sight_agree child
      refine .bind sighted fun handle => ?_
      rw [hchild.name_eq]
      refine .bind (.check _) fun name => .bind ?_ fun _ => .bind ih fun _ => .pure _
      rw [h.rest]
      exact M.ofMetadata_agree handle m

theorem list_agree (h : g.Respells g') (handle : Handle) :
    Agree World.Alike (g.list handle) (g'.list handle) := by
  have M := g.mirrors_self
  have listed : ∀ s p, Agree World.Alike
      (Act.call (g.backend.list s p) >>= g.entries s)
      (Act.call (g'.backend.list s p) >>= g'.entries s) := by
    intro s p
    refine .bind_related (S := List.Forall₂ Spelling.Alike) (fun w w' hw => ?_)
      fun _ _ halike => h.entries_agree s halike
    rw [Act.answer_call, Act.answer_call]
    rcases h.list s p w.backend w'.backend hw.backend with
      ⟨texts, texts', b, b', heq, heq', halike, rfl⟩ | ⟨f, b, b', heq, heq', rfl⟩
    · rw [heq, heq']
      exact .inr ⟨_, _, _, _, rfl, rfl, halike, rfl, hw.inodes, hw.journal, hw.observed⟩
    · rw [heq, heq']
      exact .inl ⟨_, _, _, rfl, rfl, rfl, hw.inodes, hw.journal, hw.observed⟩
  refine M.run_agree (.bind (M.resolve_agree handle) fun p => ?_)
  exact h.session_agree fun s => listed s p.toText

/-- Gateways that differ in spellings answer every request alike. -/
theorem perform_agree (h : g.Respells g') (r : Request) :
    Agree World.Alike (g.perform r) (g'.perform r) := by
  cases r with
  | list handle => exact .map _ (h.list_agree handle)
  | _ =>
    rw [h.rest]
    exact g.mirrors_self.perform_agree _

end Respells

end Gateway

end InodeGateway
