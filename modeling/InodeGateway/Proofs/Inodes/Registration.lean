import InodeGateway.Proofs.Inodes.Coherence
import InodeGateway.Proofs.Path.Spellings

/-!
# Registrations

A registration succeeds exactly if nothing speaks against it.  What can speak against it is looked
at in a fixed order, and the last of it, a path that has a handle already, is found when one
direction of the table is written.  Nothing of this is left behind: a registration that is refused
leaves the table as it was, with both directions in their order.

## Main definitions

* `Inodes.Free` — a pair against which nothing speaks
* `Inodes.Objects` — what speaks against a pair, the first objection only
* `Inodes.Told` — class and pair that clients are told
* `Inodes.Appends` — the table with one more pair at its end, and otherwise as it was

## Main statements

* `Inodes.register_eq_ok_iff`, `Inodes.register_eq_error_iff` — when a registration succeeds, and
  with what it fails
* `Inodes.sight_eq` — sight of a path is a look-up and, where that finds nothing, a registration of
  the next handle
* `Inodes.register_atomic` — the outcome of registrations and of sights, and what they leave
-/

namespace InodeGateway.Inodes

variable {t t' : Inodes} {h : Handle} {p : Path} {text : String}

/-- A pair against which nothing speaks. -/
structure Free (t : Inodes) (h : Handle) (text : String) : Prop where
  positive : 0 < h
  spells : ∃ form, Spelling.normalize text = .ok form
  handle_new : ∀ p, t.pathOf h ≠ .ok p
  path_new : ∀ k, t.handleOf text ≠ .ok (some k)

/-- What speaks against a pair.  Of several objections the first one counts. -/
inductive Objects (t : Inodes) (h : Handle) (text : String) : Refusal → Prop where
  | notPositive : h ≤ 0 → Objects t h text (.handleNotPositive h)
  /-- A text that spells no path. -/
  | unread {r : Refusal} : 0 < h → Spelling.normalize text = .error r → Objects t h text r
  /-- A handle that stands for a path. -/
  | handleMapped {form : String} {old : Path} : 0 < h → Spelling.normalize text = .ok form →
      t.pathOf h = .ok old → Objects t h text (.handleMapped h old.toText)
  /-- A path that a handle stands for. -/
  | pathMapped {form : String} {k : Handle} : 0 < h → Spelling.normalize text = .ok form →
      (∀ old, t.pathOf h ≠ .ok old) → t.handleOf text = .ok (some k) →
      Objects t h text (.pathMapped k form)

/-- What clients are told about an objection: its class and, where the table holds one side of the
pair already, the pair that is there. -/
inductive Told (t : Inodes) (h : Handle) (text : String) (r : Refusal) : Prop where
  | invalid : r.code = .invalidArgument → (h ≤ 0 ∨ Spelling.normalize text = .error r) →
      Told t h text r
  | handleMapped {old : Path} : r.code = .alreadyMapped → t.pathOf h = .ok old →
      r.details = some [("handle", .str (toString h)), ("path", .str old.toText)] → Told t h text r
  | pathMapped {k : Handle} {form : String} : r.code = .alreadyMapped →
      Spelling.normalize text = .ok form → t.handleOf text = .ok (some k) →
      r.details = some [("handle", .str (toString k)), ("path", .str form)] → Told t h text r

/-- The table with one more pair at its end, and otherwise as it was. -/
structure Appends (t : Inodes) (h : Handle) (p : Path) (t' : Inodes) : Prop where
  entries : t'.entries = t.entries ++ [(h, p)]
  handles : t'.handles.entries = t.handles.entries ++ [(p, h)]
  /-- The handle leads to the path. -/
  pathOf : t'.pathOf h = .ok p
  /-- Every spelling of the path leads to the handle. -/
  handleOf : ∀ text, Spelling.normalize text = .ok p.toText → t'.handleOf text = .ok (some h)
  /-- Other handles lead where they led. -/
  pathOf_ne : ∀ k, k ≠ h → t'.pathOf k = t.pathOf k
  /-- Spellings of other paths, and texts that spell none, lead where they led. -/
  handleOf_ne : ∀ text, Spelling.normalize text ≠ .ok p.toText → t'.handleOf text = t.handleOf text
  last : t'.last = t.last
  rootReserved : t'.rootReserved = t.rootReserved

theorem normalize_eq_error_iff {r : Refusal} :
    Spelling.normalize text = .error r ↔ Path.ofText text = .error r := by
  unfold Spelling.normalize
  cases Path.ofText text <;> simp [bind, Except.bind, pure, Except.pure]

theorem normalize_eq_toText_iff :
    Spelling.normalize text = .ok p.toText ↔ Path.ofText text = .ok p := by
  refine ⟨fun hform => ?_, Spelling.normalize_of_ofText⟩
  obtain ⟨q, hq, heq⟩ := Spelling.ofText_of_normalize hform
  rwa [← Path.toText_inj.mp heq]

theorem pathOf_ne_ok_iff : (∀ p, t.pathOf h ≠ .ok p) ↔ t.paths.get? h = none := by
  simp only [ne_eq, pathOf_eq_ok_iff, Option.eq_none_iff_forall_ne_some]

/-- Adding a pair of which both sides are new writes at the ends and nowhere else. -/
theorem appends_add (hh : t.paths.get? h = none) (hp : t.handles.get? p = none) :
    t.Appends h p (t.add h p) where
  entries := entries_add hh
  handles := OrderedMap.entries_insert_of_new hp
  pathOf := pathOf_eq_ok_iff.mpr (OrderedMap.get?_insert_self _ _ _)
  handleOf text htext := handleOf_eq_ok_iff.mpr
    ⟨p, normalize_eq_toText_iff.mp htext, OrderedMap.get?_insert_self _ _ _⟩
  pathOf_ne k hk := by simp only [Inodes.pathOf, add, OrderedMap.get?_insert, if_neg (Ne.symm hk)]
  handleOf_ne text htext := by
    unfold Inodes.handleOf
    cases hq : Path.ofText text with
    | error r => rfl
    | ok q =>
      have hne : p ≠ q := by
        rintro rfl
        exact htext (normalize_eq_toText_iff.mpr hq)
      simp only [bind, Except.bind, add, OrderedMap.get?_insert, if_neg hne]
  last := rfl
  rootReserved := rfl

theorem Free.of_ofText (htext : Path.ofText text = .ok p) : t.Free h text ↔
    0 < h ∧ t.paths.get? h = none ∧ t.handles.get? p = none := by
  have path_new : (∀ k, t.handleOf text ≠ .ok (some k)) ↔ t.handles.get? p = none := by
    simp only [ne_eq, handleOf_eq_ok_iff, htext, Except.ok.injEq, exists_eq_left',
      Option.eq_none_iff_forall_ne_some]
  rw [← pathOf_ne_ok_iff, ← path_new]
  refine ⟨fun free => ⟨free.positive, free.handle_new, free.path_new⟩, ?_⟩
  rintro ⟨hpos, hh, hp⟩
  exact ⟨hpos, ⟨_, Spelling.normalize_of_ofText htext⟩, hh, hp⟩

/-- A pair against which nothing speaks is added. -/
theorem register_of_free (free : t.Free h text) :
    ∃ p, Spelling.normalize text = .ok p.toText ∧ t.paths.get? h = none ∧ t.handles.get? p = none ∧
      t.register h text = (.ok (), t.add h p) := by
  obtain ⟨form, hform⟩ := free.spells
  obtain ⟨p, htext, rfl⟩ := Spelling.ofText_of_normalize hform
  obtain ⟨hpos, hh, hp⟩ := (Free.of_ofText htext).mp free
  refine ⟨p, hform, hh, hp, ?_⟩
  simp only [register, htext, registerPath_eq, hh, hp, if_neg (Int.not_le.mpr hpos)]

/-- An objection is what a registration fails with, and the table stays. -/
theorem register_of_objects {r : Refusal} (hr : t.Objects h text r) :
    t.register h text = (.error r, t) := by
  cases hr with
  | notPositive hpos =>
    unfold register
    cases Path.ofText text <;> simp only [registerPath_eq, if_pos hpos]
  | unread hpos hr =>
    simp only [register, normalize_eq_error_iff.mp hr, if_neg (Int.not_le.mpr hpos)]
  | handleMapped hpos hform hh =>
    obtain ⟨p, htext, -⟩ := Spelling.ofText_of_normalize hform
    simp only [register, htext, registerPath_eq, pathOf_eq_ok_iff.mp hh,
      if_neg (Int.not_le.mpr hpos)]
  | pathMapped hpos hform hh hk =>
    obtain ⟨p, htext, rfl⟩ := Spelling.ofText_of_normalize hform
    obtain ⟨q, hq, hp⟩ := handleOf_eq_ok_iff.mp hk
    cases htext.symm.trans hq
    -- The handle is new, so that its entry is written, and taken back.
    simp only [register, htext, registerPath_eq, pathOf_ne_ok_iff.mp hh, hp,
      if_neg (Int.not_le.mpr hpos)]

/-- The objections are all there is that can speak against a pair. -/
theorem free_or_objects (t : Inodes) (h : Handle) (text : String) :
    t.Free h text ∨ ∃ r, t.Objects h text r := by
  by_cases hpos : h ≤ 0
  · exact .inr ⟨_, .notPositive hpos⟩
  replace hpos := Int.not_le.mp hpos
  cases hform : Spelling.normalize text with
  | error r => exact .inr ⟨_, .unread hpos hform⟩
  | ok form =>
    by_cases hh : ∃ old, t.pathOf h = .ok old
    · obtain ⟨old, hold⟩ := hh
      exact .inr ⟨_, .handleMapped hpos hform hold⟩
    rw [not_exists] at hh
    by_cases hk : ∃ k, t.handleOf text = .ok (some k)
    · obtain ⟨k, hk⟩ := hk
      exact .inr ⟨_, .pathMapped hpos hform hh hk⟩
    · exact .inl ⟨hpos, ⟨form, hform⟩, hh, not_exists.mp hk⟩

/-- Objections to what was passed are invalid arguments, and those to what is in the table name the
pair that is there. -/
theorem Objects.told {r : Refusal} (hr : t.Objects h text r) : t.Told h text r := by
  cases hr with
  | notPositive hpos => exact .invalid rfl (.inl hpos)
  | unread hpos hr => exact .invalid (Path.code_of_ofText (normalize_eq_error_iff.mp hr)) (.inr hr)
  | handleMapped hpos hform hh => exact .handleMapped rfl hh rfl
  | pathMapped hpos hform hh hk => exact .pathMapped rfl hform hk rfl

theorem register_eq_ok_iff : (t.register h text).1 = .ok () ↔ t.Free h text := by
  refine ⟨fun hr => ?_, fun free => ?_⟩
  · refine (free_or_objects t h text).resolve_right ?_
    rintro ⟨r, objects⟩
    rw [register_of_objects objects] at hr
    cases hr
  · obtain ⟨p, -, -, -, heq⟩ := register_of_free free
    rw [heq]

theorem register_eq_error_iff {r : Refusal} :
    (t.register h text).1 = .error r ↔ t.Objects h text r := by
  refine ⟨fun hr => ?_, fun objects => by rw [register_of_objects objects]⟩
  rcases free_or_objects t h text with free | ⟨r', objects⟩
  · rw [register_eq_ok_iff.mpr free] at hr
    cases hr
  · rw [register_of_objects objects] at hr
    cases hr
    exact objects

/-- What is written before an objection is found is taken back. -/
theorem register_of_error {r : Refusal} (hr : (t.register h text).1 = .error r) :
    (t.register h text).2 = t := by
  rw [register_of_objects (register_eq_error_iff.mp hr)]

theorem register_of_ok (hr : (t.register h text).1 = .ok ()) :
    ∃ p, Spelling.normalize text = .ok p.toText ∧ t.Appends h p (t.register h text).2 := by
  obtain ⟨p, hform, hh, hp, heq⟩ := register_of_free (register_eq_ok_iff.mp hr)
  rw [heq]
  exact ⟨p, hform, appends_add hh hp⟩

/-- Sight of a path is a look-up.  Where it finds nothing, the next handle is drawn and
registered. -/
theorem sight_eq (t : Inodes) (text : String) :
    t.sight text =
      match t.handleOf text with
      | .error r => (.error r, t)
      | .ok (some h) => (.ok h, t)
      | .ok none =>
        ((t.draw.2.register t.draw.1 text).1.map fun _ => t.draw.1,
          (t.draw.2.register t.draw.1 text).2) := by
  unfold sight handleOf
  cases htext : Path.ofText text with
  | error r => rfl
  | ok p =>
    simp only [sightPath_eq, register, htext, bind, Except.bind, pure, Except.pure]
    cases hp : t.handles.get? p with
    | some h => rfl
    | none =>
      show _ = ((t.draw.2.registerPath (t.last + 1) p).1.map fun _ => t.last + 1,
        (t.draw.2.registerPath (t.last + 1) p).2)
      rcases t.draw.2.registerPath (t.last + 1) p with ⟨_ | _, after⟩ <;> rfl

/-- A registration succeeds exactly if nothing speaks against it, and fails with the first objection
otherwise, of which clients are told class and pair.  It leaves the table as it was or with its pair
at the end.  Sight of a path looks the path up and registers the next handle if there is none. -/
theorem register_atomic (t : Inodes) (h : Handle) (text : String) :
    ((t.register h text).1 = .ok () ↔ t.Free h text) ∧
    (∀ r, (t.register h text).1 = .error r ↔ t.Objects h text r) ∧
    (∀ r, (t.register h text).1 = .error r →
      t.Told h text r ∧ (t.register h text).2 = t) ∧
    ((t.register h text).1 = .ok () →
      ∃ p, Spelling.normalize text = .ok p.toText ∧ t.Appends h p (t.register h text).2) ∧
    (∀ k, t.handleOf text = .ok (some k) → t.sight text = (.ok k, t)) ∧
    (∀ r, Spelling.normalize text = .error r → t.sight text = (.error r, t)) ∧
    (t.handleOf text = .ok none → t.sight text =
      ((t.draw.2.register t.draw.1 text).1.map fun _ => t.draw.1,
        (t.draw.2.register t.draw.1 text).2)) := by
  refine ⟨register_eq_ok_iff, fun r => register_eq_error_iff,
    fun r hr => ⟨(register_eq_error_iff.mp hr).told, register_of_error hr⟩, register_of_ok,
    fun k hk => ?_, fun r hr => ?_, fun hnone => ?_⟩
  · rw [sight_eq, hk]
  · have unread : t.handleOf text = .error r := by
      rw [handleOf, normalize_eq_error_iff.mp hr]
      rfl
    rw [sight_eq, unread]
  · rw [sight_eq, hnone]

end InodeGateway.Inodes
