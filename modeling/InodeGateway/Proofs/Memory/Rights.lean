import InodeGateway.Proofs.Memory.Deeds
import InodeGateway.Proofs.Memory.Looks
import InodeGateway.Proofs.Memory.Reachable
import Mathlib.Data.List.Induction

/-!
# Rights and wanted failures by history

What is granted at a path, and whether a failure is wanted there, follows from the deeds that were
done with the tree.  Each right is what it was set to last, and a failure is wanted until failures
are cleared.  Deeds that concern other paths do not matter.

## Main definitions

* `Memory.History` — the deeds that were done with a tree since it was begun
* `Memory.rightAfter`, `Memory.WantsFailure` — what follows from deeds
* `Memory.RecordedAt` — the tree says the same of a path as the deeds

## Main statements

* `Memory.RecordedAt.perform` — each deed keeps the record
* `Memory.History.recordedAt` — the record of any history
-/

namespace InodeGateway

/-- The new value of a right, if the change mentions it. -/
def Permissions.Change.value? (c : Permissions.Change) : Right → Option Bool
  | .read => c.read
  | .write => c.write
  | .execute => c.execute

theorem Permissions.grants_change (p : Permissions) (c : Permissions.Change) (right : Right) :
    (p.change c).grants right = (c.value? right).getD (p.grants right) := by
  cases right <;> rfl

namespace Memory

/-- The deed, unless it fails. -/
def Deed.done (d : Deed) (m : Memory) : List Deed :=
  match (d.perform.answer m).1 with
  | .ok _ => [d]
  | .error _ => []

/-- The deeds that were done with a tree since it was begun with some directories. -/
inductive History : List Deed → Memory → Prop
  | begun {owner : Owner} {capacityBytes : Num} {now : Instant} {texts : List String} {m : Memory}
      (h : (empty owner capacityBytes now).addDirectories texts = .ok m) : History [] m
  | performed {done : List Deed} {m : Memory} (h : History done m) (d : Deed) :
      History (done ++ d.done m) (d.perform.answer m).2

variable {m : Memory} {d : Deed} {done : List Deed} {p : Path}

/-! ### What follows from deeds -/

/-- What a deed sets a right at a path to, if it does. -/
def Deed.sets? (p : Path) (right : Right) : Deed → Option Bool
  | .setPermissions text change =>
    if (Path.ofText text).toOption = some p then change.value? right else none
  | _ => none

/-- A right at a path is what it was set to last, and it is granted if it never was set. -/
def rightAfter (done : List Deed) (p : Path) (right : Right) : Bool :=
  (done.filterMap (Deed.sets? p right)).getLast?.getD true

/-- A failure is wanted at a path: failures have not been cleared since. -/
def WantsFailure (done : List Deed) (p : Path) : Prop :=
  ∃ before text reason after, done = before ++ .failOn text reason :: after ∧
    Path.ofText text = .ok p ∧ .clearFailures ∉ after

/-- A deed that may bear on the rights at a path, or on whether a failure is wanted there. -/
def Deed.concerns (p : Path) : Deed → Bool
  | .setPermissions text _ | .failOn text _ => (Path.ofText text).toOption = some p
  | .clearFailures => true
  | _ => false

theorem sets?_setPermissions {text : String} (htext : Path.ofText text = .ok p)
    (change : Permissions.Change) (right : Right) :
    (Deed.setPermissions text change).sets? p right = change.value? right := by
  rw [Deed.sets?, htext]
  exact if_pos rfl

theorem rightAfter_concat (done : List Deed) (d : Deed) (p : Path) (right : Right) :
    rightAfter (done ++ [d]) p right = (d.sets? p right).getD (rightAfter done p right) := by
  rw [rightAfter, List.filterMap_append, List.getLast?_append]
  cases hd : d.sets? p right <;> simp [hd, rightAfter]

theorem not_wantsFailure_nil : ¬ WantsFailure [] p := by
  rintro ⟨before, text, reason, after, heq, -⟩
  cases before <;> cases heq

theorem wantsFailure_concat : WantsFailure (done ++ [d]) p ↔
    (∃ text reason, d = .failOn text reason ∧ Path.ofText text = .ok p) ∨
      d ≠ .clearFailures ∧ WantsFailure done p := by
  constructor
  · rintro ⟨before, text, reason, after, heq, htext, hafter⟩
    rcases List.eq_nil_or_concat after with rfl | ⟨after, last, rfl⟩
    · obtain ⟨-, hlast⟩ := List.append_inj' heq rfl
      cases hlast
      exact .inl ⟨text, reason, rfl, htext⟩
    · rw [List.concat_eq_append, ← List.cons_append, ← List.append_assoc] at heq
      obtain ⟨rfl, hlast⟩ := List.append_inj' heq rfl
      cases hlast
      rw [List.concat_eq_append, List.mem_append, List.mem_singleton, not_or] at hafter
      exact .inr ⟨Ne.symm hafter.2, before, text, reason, after, rfl, htext, hafter.1⟩
  · rintro (⟨text, reason, rfl, htext⟩ | ⟨hd, before, text, reason, after, rfl, htext, hafter⟩)
    · exact ⟨done, text, reason, [], rfl, htext, List.not_mem_nil⟩
    · refine ⟨before, text, reason, after ++ [d], ?_, htext, ?_⟩
      · rw [List.append_assoc, List.cons_append]
      · rw [List.mem_append, List.mem_singleton, not_or]
        exact ⟨hafter, Ne.symm hd⟩

section Unconcerned

variable (h : d.concerns p = false)
include h

theorem sets?_of_not_concerns (right : Right) : d.sets? p right = none := by
  cases d with
  | setPermissions text change =>
    rw [Deed.sets?, if_neg (of_decide_eq_false h)]
  | _ => rfl

theorem wantsFailure_concat_of_not_concerns :
    WantsFailure (done ++ [d]) p ↔ WantsFailure done p := by
  have other : ¬ ∃ text reason, d = .failOn text reason ∧ Path.ofText text = .ok p := by
    rintro ⟨text, reason, rfl, htext⟩
    rw [Deed.concerns, htext] at h
    exact of_decide_eq_false h rfl
  have kept : d ≠ .clearFailures := by
    rintro rfl
    cases h
  rw [wantsFailure_concat, or_iff_right other, and_iff_right kept]

end Unconcerned

/-- Only the deeds that concern the path count for its rights. -/
theorem rightAfter_filter (done : List Deed) (p : Path) (right : Right) :
    rightAfter (done.filter (Deed.concerns p)) p right = rightAfter done p right := by
  rw [rightAfter, rightAfter, List.filterMap_filter]
  refine congrArg (fun set => (List.getLast? set).getD true) (List.filterMap_congr fun d _ => ?_)
  cases hd : d.concerns p with
  | true => rfl
  | false => exact (sets?_of_not_concerns hd right).symm

/-- Only the deeds that concern the path count for whether a failure is wanted, by induction on the
deeds, last one first. -/
theorem wantsFailure_filter :
    WantsFailure (done.filter (Deed.concerns p)) p ↔ WantsFailure done p := by
  induction done using List.reverseRecOn with
  | nil => rfl
  | append_singleton done d ih =>
    rw [List.filter_append]
    cases hd : d.concerns p with
    | true => rw [List.filter_cons_of_pos hd, List.filter_nil, wantsFailure_concat, ih,
        wantsFailure_concat]
    | false => rw [List.filter_cons_of_neg (by simp [hd]), List.filter_nil, List.append_nil, ih,
        wantsFailure_concat_of_not_concerns hd]

/-! ### What the tree says -/

/-- What stands beside the tree at a path: rights that were set, and a failure that is wanted. -/
def marksAt (m : Memory) (p : Path) : Option Permissions × Option Reason :=
  (m.overrides.get? p, m.failures.get? p)

/-- The tree says of a path what the deeds say. -/
structure RecordedAt (done : List Deed) (m : Memory) (p : Path) : Prop where
  rights : ∀ right, ((m.overrides.get? p).getD {}).grants right = rightAfter done p right
  failure : (∃ reason, m.failures.get? p = some reason) ↔ WantsFailure done p

theorem RecordedAt.congr {m' : Memory} (h : RecordedAt done m p)
    (heq : m'.marksAt p = m.marksAt p) : RecordedAt done m' p := by
  obtain ⟨hrights, hfailure⟩ := Prod.mk.inj heq
  refine ⟨fun right => ?_, ?_⟩
  · rw [hrights]
    exact h.rights right
  · rw [hfailure]
    exact h.failure

section Placing

variable (m p)

@[simp] theorem marksAt_insert (q : Path) (kind : Kind) (size : Num) (owner : Owner) :
    (m.insert q kind size owner).marksAt p = m.marksAt p := by
  unfold Memory.insert
  cases q.parent? <;> rfl

@[simp] theorem marksAt_makeDirectories (q : Path) :
    (m.makeDirectories q).marksAt p = m.marksAt p := by
  fun_induction m.makeDirectories q with
  | case1 => rfl
  | case2 => exact marksAt_insert _ _ _ _ _ _
  | case3 q _ r _ ih => rw [marksAt_insert, ih]

@[simp] theorem marksAt_seedPath (q : Path) (kind : Kind) (size : Num) (owner : Option Owner) :
    (m.seedPath q kind size owner).marksAt p = m.marksAt p := by
  unfold seedPath
  cases q.parent? <;> simp

end Placing

theorem marksAt_addDirectories {texts : List String} {m' : Memory}
    (h : m.addDirectories texts = .ok m') (p : Path) : m'.marksAt p = m.marksAt p := by
  induction texts generalizing m with
  | nil =>
    cases h
    rfl
  | cons text rest ih =>
    rw [addDirectories] at h
    split at h
    · rw [ih h, marksAt_makeDirectories]
    · cases h

/-- A deed leaves alone what stands beside the tree at paths that it does not concern. -/
theorem Deed.Effect.marksAt_eq {m' : Memory} (effect : d.Effect m m')
    (h : d.concerns p = false) : m'.marksAt p = m.marksAt p := by
  have elsewhere : ∀ {text}, (Path.ofText text).toOption ≠ some p →
      ∀ {q}, Path.ofText text = .ok q → q ≠ p := by
    rintro text hne q htext rfl
    rw [htext] at hne
    exact hne rfl
  cases effect with
  | aside d sessions => rfl
  | made s text kind admitted => exact marksAt_insert _ _ _ _ _ _
  | placed htext kind size owner => exact marksAt_seedPath _ _ _ _ _ _
  | granted htext change permissions =>
    refine congrArg (·, _) ((OrderedMap.get?_insert _ _ _ _).trans (if_neg ?_))
    exact elsewhere (of_decide_eq_false h) htext
  | wanted htext reason =>
    refine congrArg (_, ·) ((OrderedMap.get?_insert _ _ _ _).trans (if_neg ?_))
    exact elsewhere (of_decide_eq_false h) htext
  | cleared => cases h
  | reluctant enabled => rfl

theorem marksAt_perform (h : d.concerns p = false) (m : Memory) :
    (d.perform.answer m).2.marksAt p = m.marksAt p :=
  (d.effect m).marksAt_eq h

section SetPermissions

variable {text : String} (htext : Path.ofText text = .ok p) {change : Permissions.Change}
include htext

theorem perform_setPermissions {permissions : Permissions}
    (hp : m.permissionsAt p = .ok permissions) :
    (Deed.setPermissions text change).perform.answer m =
      (.ok .done, { m with overrides := m.overrides.insert p (permissions.change change) }) := by
  rw [Deed.perform, Call.answer_map, Memory.setPermissions, Call.answer_of, htext]
  simp only [hp]
  rfl

theorem perform_setPermissions_failing {f : Failure} (hp : m.permissionsAt p = .error f) :
    (Deed.setPermissions text change).perform.answer m = (.error f, m) := by
  rw [Deed.perform, Call.answer_map, Memory.setPermissions, Call.answer_of, htext]
  simp only [hp]
  rfl

end SetPermissions

/-! ### The record of a history -/

/-- A tree without rights that were set and without wanted failures says what no deeds say. -/
theorem RecordedAt.none (h : m.marksAt p = (none, none)) : RecordedAt [] m p := by
  obtain ⟨hrights, hfailure⟩ := Prod.mk.inj h
  refine ⟨fun right => ?_, ?_⟩
  · rw [hrights]
    cases right <;> rfl
  · rw [hfailure]
    exact iff_of_false (by simp) not_wantsFailure_nil

namespace RecordedAt

variable (h : RecordedAt done m p)
include h

/-- A deed that does not concern the path changes nothing there, whether or not it is done. -/
theorem unconcerned (hd : d.concerns p = false) :
    RecordedAt (done ++ d.done m) (d.perform.answer m).2 p := by
  refine RecordedAt.congr ?_ (marksAt_perform hd m)
  unfold Deed.done
  split
  · refine ⟨fun right => ?_, ?_⟩
    · rw [rightAfter_concat, sets?_of_not_concerns hd]
      exact h.rights right
    · rw [wantsFailure_concat_of_not_concerns hd]
      exact h.failure
  · rwa [List.append_nil]

section Spelled

variable {text : String} (htext : Path.ofText text = .ok p)
include htext

/-- Rights that are set count, unless a failure that is wanted keeps them from being set. -/
theorem setPermissions (change : Permissions.Change) :
    RecordedAt (done ++ (Deed.setPermissions text change).done m)
      ((Deed.setPermissions text change).perform.answer m).2 p := by
  cases hclear : m.checkFailure p with
  | error f =>
    have failing : m.permissionsAt p = .error f := by
      rw [permissionsAt, hclear]
      rfl
    rw [Deed.done, perform_setPermissions_failing htext failing, List.append_nil]
    exact h
  | ok _ =>
    rw [Deed.done, perform_setPermissions htext (permissionsAt_clear hclear)]
    refine ⟨fun right => ?_, h.failure.trans ?_⟩
    · rw [rightAfter_concat, sets?_setPermissions htext, ← h.rights, ← Permissions.grants_change,
        OrderedMap.get?_insert_self]
      rfl
    · rw [wantsFailure_concat]
      constructor
      · exact fun wanted => .inr ⟨Deed.noConfusion, wanted⟩
      · rintro (⟨_, _, heq, -⟩ | ⟨-, wanted⟩)
        · cases heq
        · exact wanted

theorem failOn (reason : Reason) :
    RecordedAt (done ++ (Deed.failOn text reason).done m)
      ((Deed.failOn text reason).perform.answer m).2 p := by
  rw [Deed.done, Deed.perform, Call.answer_map, Memory.failOn, Call.answer_of, htext]
  show RecordedAt (done ++ [.failOn text reason]) _ p
  refine ⟨fun right => ?_, ?_⟩
  · rw [rightAfter_concat]
    exact h.rights right
  · rw [wantsFailure_concat]
    exact iff_of_true ⟨reason, OrderedMap.get?_insert_self _ _ _⟩ (.inl ⟨text, reason, rfl, htext⟩)

end Spelled

theorem clearFailures : RecordedAt (done ++ [.clearFailures]) m.clearFailures p := by
  refine ⟨fun right => ?_, ?_⟩
  · rw [rightAfter_concat]
    exact h.rights right
  · rw [wantsFailure_concat]
    refine iff_of_false ?_ ?_
    · rintro ⟨reason, hreason⟩
      cases hreason
    · rintro (⟨_, _, heq, -⟩ | ⟨hne, -⟩)
      · cases heq
      · exact hne rfl

/-- Each deed keeps the record. -/
theorem perform (d : Deed) : RecordedAt (done ++ d.done m) (d.perform.answer m).2 p := by
  cases hd : d.concerns p with
  | false => exact h.unconcerned hd
  | true =>
    cases d with
    | setPermissions text change =>
      exact h.setPermissions (ok_of_toOption (of_decide_eq_true hd)) change
    | failOn text reason => exact h.failOn (ok_of_toOption (of_decide_eq_true hd)) reason
    | clearFailures => exact h.clearFailures
    | _ => cases hd

end RecordedAt

/-- The tree says of every path what its history says. -/
theorem History.recordedAt (h : History done m) (p : Path) : RecordedAt done m p := by
  induction h with
  | @begun owner capacityBytes now texts m h =>
    refine .none ?_
    rw [marksAt_addDirectories h, empty, marksAt_insert]
    rfl
  | performed _ d ih => exact ih.perform d

end Memory

end InodeGateway
