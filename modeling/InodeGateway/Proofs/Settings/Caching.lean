import InodeGateway.Proofs.Settings.Rules
import Mathlib.Data.List.Induction

/-!
# Settings that are kept

Over the life of a process its variables change, settings are loaded and kept settings are
forgotten, in any order.  A load returns what the first load that succeeded since the last reset
found in the variables of its time; where there was none, it reads the variables of now.

## Main definitions

* `Settings.Moment`, `Settings.Process` — what happens to a process, and what it holds
* `Settings.Fresh` — no load since the last reset has succeeded
* `Settings.First` — the history before the first load that succeeded since the last reset

## Main statements

* `Settings.fresh_of_kept`, `Settings.first_of_kept` — what the kept settings tell about the history
* `Settings.First.unique` — there is one first success
* `Settings.load_after` — what a load returns after any history
-/

namespace InodeGateway.Settings

/-- What happens to the settings of a process. -/
inductive Moment where
  /-- The variables become these. -/
  | change (env : Environment)
  | reset
  | load

/-- A process with its variables and the settings that it keeps. -/
structure Process where
  env : Environment
  kept : Kept

namespace Process

def loaded (p : Process) : Except Failure Settings × Kept := Settings.load p.env p.kept

def step (p : Process) : Moment → Process
  | .change env => { p with env := env }
  | .reset => { p with kept := none }
  | .load => { p with kept := p.loaded.2 }

/-- A process that began with nothing kept, after a history. -/
def after (env : Environment) (history : List Moment) : Process := history.foldl step ⟨env, none⟩

@[simp] theorem after_nil (env : Environment) : after env [] = ⟨env, none⟩ := rfl

@[simp] theorem after_concat (env : Environment) (history : List Moment) (m : Moment) :
    after env (history ++ [m]) = (after env history).step m := by
  simp [after]

end Process

open Process

/-- The variables after a history. -/
def inForce (env : Environment) : List Moment → Environment
  | [] => env
  | .change env' :: history => inForce env' history
  | .reset :: history => inForce env history
  | .load :: history => inForce env history

theorem env_after (env : Environment) (history : List Moment) :
    (after env history).env = inForce env history := by
  have run : ∀ (history : List Moment) (p : Process),
      (history.foldl step p).env = inForce p.env history := by
    intro history
    induction history with
    | nil => intro p; rfl
    | cons m history ih => intro p; cases m <;> exact ih _
  exact run history ⟨env, none⟩

/-- A load succeeds after a history. -/
def Succeeds (env : Environment) (history : List Moment) : Prop :=
  ∃ s, (after env history).loaded.1 = .ok s

/-- No load since the last reset has succeeded. -/
def Fresh (env : Environment) (history : List Moment) : Prop :=
  ∀ before between, history = before ++ .load :: between → .reset ∉ between → ¬ Succeeds env before

/-- The first load that has succeeded since the last reset came after `before`. -/
structure First (env : Environment) (history before : List Moment) : Prop where
  since : ∃ between, history = before ++ .load :: between ∧ .reset ∉ between
  succeeds : Succeeds env before
  fresh : Fresh env before

variable {env : Environment} {history before : List Moment} {s : Settings}

theorem load_none (env : Environment) : (load env none).1 = ofEnvironment env := by
  rw [load]
  cases ofEnvironment env <;> rfl

theorem loaded_of_none (h : (after env history).kept = none) :
    (after env history).loaded = load (inForce env history) none := by
  rw [loaded, h, env_after]

theorem loaded_of_some (h : (after env history).kept = some s) :
    (after env history).loaded = (.ok s, some s) := by
  rw [loaded, h, load]

/-- A load in a longer history is its last moment, or was there before. -/
theorem concat_eq_iff {m : Moment} {between : List Moment} :
    history ++ [m] = before ++ .load :: between ↔
      (between = [] ∧ before = history ∧ m = .load) ∨
        ∃ earlier, between = earlier ++ [m] ∧ history = before ++ .load :: earlier := by
  induction between using List.reverseRecOn with
  | nil =>
    rw [← List.concat_eq_append, ← List.concat_eq_append, List.concat_inj]
    constructor
    · rintro ⟨rfl, rfl⟩
      exact .inl ⟨rfl, rfl, rfl⟩
    · rintro (⟨-, rfl, rfl⟩ | ⟨earlier, h, -⟩)
      · exact ⟨rfl, rfl⟩
      · exact absurd h (by simp)
  | append_singleton earlier last _ =>
    rw [← List.cons_append, ← List.append_assoc, ← List.concat_eq_append, ← List.concat_eq_append,
      List.concat_inj]
    constructor
    · rintro ⟨rfl, rfl⟩
      exact .inr ⟨earlier, rfl, rfl⟩
    · rintro (⟨h, -⟩ | ⟨earlier', h, rfl⟩)
      · simp at h
      · rw [← List.concat_eq_append, ← List.concat_eq_append, List.concat_inj] at h
        exact ⟨by rw [h.1], h.2.symm⟩

/-- What is not a reset leaves a first success where it is. -/
theorem First.concat {m : Moment} (h : First env history before) (hm : m ≠ .reset) :
    First env (history ++ [m]) before := by
  obtain ⟨⟨between, rfl, kept⟩, succeeds, fresh⟩ := h
  refine ⟨⟨between ++ [m], by simp, ?_⟩, succeeds, fresh⟩
  simp [kept, hm.symm]

/-- While nothing is kept, no load since the last reset has succeeded. -/
theorem fresh_of_kept (h : (after env history).kept = none) : Fresh env history := by
  induction history using List.reverseRecOn with
  | nil =>
    intro before between split
    simp at split
  | append_singleton history m ih =>
    rw [after_concat] at h
    intro before between split unforgotten
    rcases concat_eq_iff.mp split with ⟨rfl, rfl, rfl⟩ | ⟨earlier, rfl, rfl⟩
    · rintro ⟨s, hs⟩
      -- the last load has succeeded, so its settings are kept
      cases hkept : (after env before).kept with
      | some t => simp [step, loaded_of_some hkept] at h
      | none =>
        rw [loaded_of_none hkept, load_none] at hs
        simp [step, loaded_of_none hkept, load, hs] at h
    · have before_last : (after env (before ++ .load :: earlier)).kept = none := by
        cases m with
        | change env' => exact h
        | reset => simp at unforgotten
        | load =>
          cases hkept : (after env (before ++ .load :: earlier)).kept with
          | none => rfl
          | some t => simp [step, loaded_of_some hkept] at h
      exact ih before_last before earlier rfl (by simp_all)

/-- What is kept was read from the variables at the first success since the last reset. -/
theorem first_of_kept (h : (after env history).kept = some s) :
    ∃ before, First env history before ∧ ofEnvironment (inForce env before) = .ok s := by
  induction history using List.reverseRecOn with
  | nil => cases h
  | append_singleton history m ih =>
    rw [after_concat] at h
    cases m with
    | change env' =>
      obtain ⟨before, first, hs⟩ := ih h
      exact ⟨before, first.concat (by simp), hs⟩
    | reset => cases h
    | load =>
      cases hkept : (after env history).kept with
      | some t =>
        simp only [step, loaded_of_some hkept] at h
        obtain ⟨before, first, hs⟩ := ih (hkept.trans h)
        exact ⟨before, first.concat (by simp), hs⟩
      | none =>
        simp only [step, loaded_of_none hkept, load] at h
        cases hread : ofEnvironment (inForce env history) with
        | error failure => simp [hread] at h
        | ok t =>
          obtain rfl : t = s := by simpa [hread] using h
          have succeeds : Succeeds env history := ⟨t, by rw [loaded_of_none hkept, load_none, hread]⟩
          exact ⟨history, ⟨⟨[], rfl, by simp⟩, succeeds, fresh_of_kept hkept⟩, hread⟩

/-- Of two loads that are both the first to succeed, neither comes before the other. -/
theorem First.unique {before' : List Moment} (h : First env history before)
    (h' : First env history before') : before = before' := by
  obtain ⟨between, split, unforgotten⟩ := h.since
  obtain ⟨between', split', unforgotten'⟩ := h'.since
  rcases List.append_eq_append_iff.mp (split.symm.trans split') with
    ⟨gap, rfl, hgap⟩ | ⟨gap, rfl, hgap⟩
  · cases gap with
    | nil => simp
    | cons m gap =>
      obtain ⟨rfl, rfl⟩ := List.cons.inj hgap
      exact absurd h.succeeds (h'.fresh before gap rfl (by simp_all))
  · cases gap with
    | nil => simp
    | cons m gap =>
      obtain ⟨rfl, rfl⟩ := List.cons.inj hgap
      exact absurd h'.succeeds (h.fresh before' gap rfl (by simp_all))

/-- What a load returns after any history.  If a load has succeeded since the last reset, it is what
the variables told at the first such load.  Otherwise it is what the variables tell now; should that
be a failure, nothing is kept, and a load after the variables are repaired succeeds.  Settings that
are returned are lawful. -/
theorem load_after (env : Environment) (history : List Moment) :
    (∀ before, First env history before →
        (after env history).loaded.1 = (load (inForce env before) none).1) ∧
      ((∀ before, ¬ First env history before) →
        (after env history).loaded.1 = (load (inForce env history) none).1) ∧
      (∀ failure, (after env history).loaded.1 = .error failure →
        (after env (history ++ [.load])).kept = none ∧
          ∀ repaired s, (load repaired none).1 = .ok s →
            (after env (history ++ [.load, .change repaired])).loaded.1 = .ok s) ∧
      ∀ s, (after env history).loaded.1 = .ok s → s.Lawful := by
  cases hkept : (after env history).kept with
  | some t =>
    obtain ⟨before, first, hread⟩ := first_of_kept hkept
    rw [loaded_of_some hkept]
    refine ⟨?_, fun none => absurd first (none before), nofun, ?_⟩
    · intro before' first'
      rw [← first.unique first', load_none, hread]
    · rintro s ⟨⟩
      exact (ok_of_ofEnvironment hread).1
  | none =>
    rw [loaded_of_none hkept]
    refine ⟨?_, fun _ => rfl, ?_, ?_⟩
    · intro before first
      obtain ⟨between, rfl, unforgotten⟩ := first.since
      exact absurd first.succeeds (fresh_of_kept hkept before between rfl unforgotten)
    · intro failure hfailure
      have empty : (after env (history ++ [.load])).kept = none := by
        rw [load_none] at hfailure
        simp [step, loaded_of_none hkept, load, hfailure]
      refine ⟨empty, ?_⟩
      intro repaired s hs
      have split : history ++ [.load, .change repaired] =
          (history ++ [.load]) ++ [.change repaired] := by simp
      rw [split, after_concat, step, loaded]
      simp only [empty, hs]
    · intro s hs
      rw [load_none] at hs
      exact (ok_of_ofEnvironment hs).1

/-- A port below zero is refused, 4501 is kept, and 4502 comes too late. -/
theorem load_after_repair :
    let port (text : String) : Environment := ⟨[("GRIDVFS_PORT", text)]⟩
    let repair : List Moment := [.load, .change (port "4501")]
    let history := repair ++ [.load, .change (port "4502")]
    First (port "-1") history repair ∧
      (after (port "-1") history).loaded.1.toOption.map Settings.port = some 4501 := by
  intro port repair history
  have refused : ¬ Succeeds (port "-1") [] := by
    rintro ⟨s, hs⟩
    have none : (after (port "-1") []).loaded.1.toOption = none := by decide +kernel
    rw [hs] at none
    cases none
  have first : First (port "-1") history repair := by
    refine ⟨⟨[.change (port "4502")], rfl, by simp⟩, ?_, ?_⟩
    · have some : (after (port "-1") repair).loaded.1.toOption.isSome := by decide +kernel
      cases hload : (after (port "-1") repair).loaded.1 with
      | ok s => exact ⟨s, hload⟩
      | error failure => simp [hload, Except.toOption] at some
    · intro before between split _
      cases before with
      | nil => exact refused
      | cons m before =>
        obtain ⟨rfl, hrest⟩ := List.cons.inj split
        cases before <;> simp at hrest
  refine ⟨first, ?_⟩
  rw [(load_after (port "-1") history).1 repair first]
  decide +kernel

end InodeGateway.Settings
