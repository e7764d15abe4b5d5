import InodeGateway.Proofs.Memory.Children
import InodeGateway.Proofs.Path.Spellings
import Mathlib.Data.List.Forall2

/-!
# What is done with a tree in memory

All that can be done with a tree in memory, as data.  However the paths are spelled, the same is
done and the same is answered; only a session that lists what is no directory is told the path as it
spelled it.

## Main definitions

* `Memory.Deed`, `Memory.Reply` — what can be done, and what is answered
* `Memory.Deed.Effect` — what a deed can make of a tree
* `Memory.Deed.Alike` — the same deed, but for the spelling of its path
* `Memory.Deed.Agrees` — the same answer, but for the path that a listing was asked for

## Main statements

* `Memory.Deed.effect` — no deed makes anything else of it
* `Memory.Deed.Alike.perform` — alike deeds do the same and are answered alike
* `Memory.addDirectories_alike` — alike directories make the same tree
* `Memory.written_of_list` — children are told by their written forms
-/

namespace InodeGateway.Memory

open Spelling (Alike)

/-- What can be done with a tree: the calls of its sessions, and the changes made past them. -/
inductive Deed where
  | openSession
  | stat (s : Session) (text : String)
  | permits (s : Session) (right : Right) (text : String)
  | create (s : Session) (text : String) (kind : Kind)
  | list (s : Session) (text : String)
  | space (s : Session)
  | release (s : Session)
  | seed (text : String) (kind : Kind) (size : Num) (owner : Option Owner)
  | setPermissions (text : String) (change : Permissions.Change)
  | failOn (text : String) (reason : Reason)
  | clearFailures
  /-- Wants releases to fail, or no longer. -/
  | failReleases (enabled : Bool)
  deriving DecidableEq, Repr

/-- What is answered to a deed that does not fail. -/
inductive Reply where
  | session (s : Session)
  | metadata (m : Metadata)
  | granted (answer : Bool)
  | children (texts : List String)
  | space (capacity : Capacity)
  | done
  deriving DecidableEq, Repr

def Deed.perform : Deed → Call Memory Reply
  | .openSession => .session <$> backend.openSession
  | .stat s text => .metadata <$> backend.stat s text
  | .permits s right text => .granted <$> backend.permits s right text
  | .create s text kind => (fun _ => .done) <$> backend.create s text kind
  | .list s text => .children <$> backend.list s text
  | .space s => .space <$> spaceOf s
  | .release s => (fun _ => .done) <$> backend.release s
  | .seed text kind size owner => (fun _ => .done) <$> Memory.seed text kind size owner
  | .setPermissions text change => (fun _ => .done) <$> Memory.setPermissions text change
  | .failOn text reason => (fun _ => .done) <$> Memory.failOn text reason
  | .clearFailures => .of fun m => (.ok .done, m.clearFailures)
  | .failReleases enabled => .of fun m => (.ok .done, { m with failsReleases := enabled })

/-- What a deed can make of a tree. -/
inductive Deed.Effect (m : Memory) : Deed → Memory → Prop
  /-- No more than the sessions change: it looks, opens or ends a session, or is refused. -/
  | aside (d : Deed) (sessions : Sessions) : Effect m d { m with sessions := sessions }
  | made (s : Session) (text : String) (kind : Kind) {p : Path} (admitted : m.admits p = .ok ()) :
      Effect m (.create s text kind) (m.insert p kind 0 m.owner)
  | placed {text : String} {p : Path} (htext : Path.ofText text = .ok p) (kind : Kind) (size : Num)
      (owner : Option Owner) :
      Effect m (.seed text kind size owner) (m.seedPath p kind size owner)
  | granted {text : String} {p : Path} (htext : Path.ofText text = .ok p)
      (change : Permissions.Change) (permissions : Permissions) :
      Effect m (.setPermissions text change)
        { m with overrides := m.overrides.insert p permissions }
  | wanted {text : String} {p : Path} (htext : Path.ofText text = .ok p) (reason : Reason) :
      Effect m (.failOn text reason) { m with failures := m.failures.insert p reason }
  | cleared : Effect m .clearFailures m.clearFailures
  | reluctant (enabled : Bool) :
      Effect m (.failReleases enabled) { m with failsReleases := enabled }

theorem Deed.effect (d : Deed) (m : Memory) : d.Effect m (d.perform.answer m).2 := by
  have unchanged : ∀ {d : Deed} {m' : Memory}, m' = m → d.Effect m m' := by
    rintro d _ rfl
    exact .aside d _
  cases d with
  | openSession => exact .aside _ _
  | stat s text =>
    rw [Deed.perform, Call.answer_map]
    exact unchanged (state_withinAt s text _ m)
  | permits s right text =>
    rw [Deed.perform, Call.answer_map]
    exact unchanged (state_withinAt s text _ m)
  | create s text kind =>
    rw [Deed.perform, Call.answer_map, show backend.create s text kind = within s _ from rfl]
    rcases within_cases s _ m with h | h
    · exact unchanged h
    · rw [h]
      cases Path.ofText text with
      | error r => exact unchanged rfl
      | ok p =>
        simp only [createNode]
        cases admitted : m.admits p with
        | error f => exact unchanged rfl
        | ok _ => exact .made s text kind admitted
  | list s text =>
    rw [Deed.perform, Call.answer_map]
    exact unchanged
      ((within_cases s (fun m => (m.children text, m)) m).elim id (congrArg Prod.snd))
  | space s =>
    rw [Deed.perform, Call.answer_map]
    exact unchanged ((within_cases s (fun m => (.ok m.space, m)) m).elim id (congrArg Prod.snd))
  | release s =>
    rw [Deed.perform, Call.answer_map, show backend.release s = Memory.release s from rfl,
      Memory.release, Call.answer_of]
    split
    · exact unchanged rfl
    · split <;> exact .aside _ _
  | seed text kind size owner =>
    rw [Deed.perform, Call.answer_map, Memory.seed, Call.answer_of]
    cases htext : Path.ofText text with
    | error r => exact unchanged rfl
    | ok p => exact .placed htext kind size owner
  | setPermissions text change =>
    rw [Deed.perform, Call.answer_map, Memory.setPermissions, Call.answer_of]
    cases htext : Path.ofText text with
    | error r => exact unchanged rfl
    | ok p =>
      simp only
      cases m.permissionsAt p with
      | error f => exact unchanged rfl
      | ok permissions => exact .granted htext change _
  | failOn text reason =>
    rw [Deed.perform, Call.answer_map, Memory.failOn, Call.answer_of]
    cases htext : Path.ofText text with
    | error r => exact unchanged rfl
    | ok p => exact .wanted htext reason
  | clearFailures => exact .cleared
  | failReleases enabled => exact .reluctant enabled

/-- The same deed, but for the spelling of its path. -/
inductive Deed.Alike : Deed → Deed → Prop
  | same (d : Deed) : Alike d d
  | stat (s : Session) {a b : String} (h : Spelling.Alike a b) : Alike (.stat s a) (.stat s b)
  | permits (s : Session) (right : Right) {a b : String} (h : Spelling.Alike a b) :
      Alike (.permits s right a) (.permits s right b)
  | create (s : Session) {a b : String} (h : Spelling.Alike a b) (kind : Kind) :
      Alike (.create s a kind) (.create s b kind)
  | list (s : Session) {a b : String} (h : Spelling.Alike a b) : Alike (.list s a) (.list s b)
  | seed {a b : String} (h : Spelling.Alike a b) (kind : Kind) (size : Num)
      (owner : Option Owner) : Alike (.seed a kind size owner) (.seed b kind size owner)
  | setPermissions {a b : String} (h : Spelling.Alike a b) (change : Permissions.Change) :
      Alike (.setPermissions a change) (.setPermissions b change)
  | failOn {a b : String} (h : Spelling.Alike a b) (reason : Reason) :
      Alike (.failOn a reason) (.failOn b reason)

/-- The same answer to two deeds, unless both list what is no directory: each of them is told the
text that it asked for. -/
def Deed.Agrees (d d' : Deed) (r r' : Except Failure Reply) : Prop :=
  r' = r ∨ ∃ s a b, d = .list s a ∧ d' = .list s b ∧
    r = .error (notCollection a) ∧ r' = .error (notCollection b)

variable {a b : String} {m : Memory}

/-- Listings of alike texts tell the same, unless both fail for want of a directory. -/
theorem children_alike (h : Alike a b) (m : Memory) :
    m.children b = m.children a ∨
      m.children a = .error (notCollection a) ∧ m.children b = .error (notCollection b) := by
  cases hp : Path.ofText a with
  | error refusal =>
    refine .inl ?_
    rw [children, children, h.ofText_eq, hp]
    rfl
  | ok p =>
    rw [children_of_ofText hp, children_of_ofText (h.ofText_eq.trans hp)]
    cases m.node? p with
    | error f => exact .inl rfl
    | ok node =>
      by_cases hkind : node.kind = .directory
      · exact .inl (by simp only [hkind, if_true])
      · exact .inr (by simp only [hkind, if_false, and_self])

theorem stat_alike (h : Alike a b) (s : Session) : backend.stat s b = backend.stat s a := by
  simp only [backend, withinAt, h.ofText_eq]

/-- Alike deeds do the same and are answered alike. -/
theorem Deed.Alike.perform {d d' : Deed} (h : d.Alike d') (m : Memory) :
    d.Agrees d' (d.perform.answer m).1 (d'.perform.answer m).1 ∧
      (d'.perform.answer m).2 = (d.perform.answer m).2 := by
  -- All calls but one are the same functions of the tree, for they begin with reading the path.
  have same : ∀ {d d' : Deed}, d'.perform = d.perform →
      d.Agrees d' (d.perform.answer m).1 (d'.perform.answer m).1 ∧
        (d'.perform.answer m).2 = (d.perform.answer m).2 :=
    fun heq => ⟨.inl (by rw [heq]), by rw [heq]⟩
  cases h with
  | same => exact same rfl
  | stat s h => exact same (by rw [Deed.perform, Deed.perform, stat_alike h])
  | permits s right h => exact same (by simp only [Deed.perform, backend, withinAt, h.ofText_eq])
  | create s h kind => exact same (by simp only [Deed.perform, backend, h.ofText_eq])
  | seed h => exact same (by simp only [Deed.perform, Memory.seed, h.ofText_eq])
  | setPermissions h => exact same (by simp only [Deed.perform, Memory.setPermissions, h.ofText_eq])
  | failOn h => exact same (by simp only [Deed.perform, Memory.failOn, h.ofText_eq])
  | @list s a b h =>
    have listed : ∀ text, (Deed.list s text).perform = .children <$> within s fun m =>
        (m.children text, m) := fun _ => rfl
    simp only [listed, Call.answer_map, within, Call.answer_of]
    cases m.sessions.ensureOpen s none with
    | error f => exact ⟨.inl rfl, rfl⟩
    | ok _ =>
      rcases children_alike h m with heq | ⟨ha, hb⟩
      · exact ⟨.inl (by simp only [heq]), rfl⟩
      · exact ⟨.inr ⟨s, a, b, rfl, rfl, by simp only [ha]; rfl, by simp only [hb]; rfl⟩, rfl⟩

/-- Alike directories make the same tree, or are refused alike. -/
theorem addDirectories_alike {texts texts' : List String} (h : List.Forall₂ Alike texts texts')
    (m : Memory) : m.addDirectories texts' = m.addDirectories texts := by
  induction h generalizing m with
  | nil => rfl
  | cons hfirst _ ih =>
    rw [addDirectories, addDirectories, hfirst.ofText_eq]
    cases Path.ofText _ with
    | error refusal => rfl
    | ok p => exact ih _

/-- The children of a directory are told by their written forms. -/
theorem written_of_list {s : Session} {texts : List String}
    (h : ((backend.list s a).answer m).1 = .ok texts) :
    ∃ paths : List Path, texts = paths.map Path.toText := by
  have listed := children_of_list h
  cases hp : Path.ofText a with
  | error refusal =>
    rw [children, hp] at listed
    cases listed
  | ok p =>
    obtain ⟨node, -, rfl⟩ := children_eq_ok hp listed
    exact ⟨node.children, rfl⟩

end InodeGateway.Memory
