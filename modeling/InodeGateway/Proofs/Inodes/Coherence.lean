import InodeGateway.Inodes
import InodeGateway.Proofs.Arguments
import InodeGateway.Proofs.OrderedMap
import InodeGateway.Proofs.Path.WrittenForm

/-!
# The two directions of the table

Both directions of the table hold the same pairs.  A registration either adds one pair at the end of
both or leaves the table as it was: an entry that is written and taken back leaves no trace.

## Main definitions

* `Inodes.add` — the table with one more pair
* `Inodes.Registered` — a handle that stands for a path
* `Inodes.Coherent` — both directions hold the same pairs, and no handle or path comes twice

## Main statements

* `Inodes.registerPath_eq` — what a registration does, without the detour through the undoing
* `Inodes.sightPath_eq` — what happens on sight of a path
* `Inodes.Coherent.registerPath`, `Inodes.Coherent.sightPath` — coherence is kept
-/

namespace InodeGateway.Inodes

variable {t t' : Inodes} {h : Handle} {p : Path}

/-- The table with one more pair in both directions. -/
def add (t : Inodes) (h : Handle) (p : Path) : Inodes :=
  { t with paths := t.paths.insert h p, handles := t.handles.insert p h }

/-- A handle that stands for a path. -/
def Registered (t : Inodes) (h : Handle) : Prop := ∃ p, (h, p) ∈ t.entries

/-- Of handles that follow one another, the second begins where the first is left out. -/
theorem add_one_add (h : Handle) (i : Nat) : h + 1 + (i : Handle) = h + ((i + 1 : Nat) : Handle) :=
  (Int.add_assoc h 1 i).trans (congrArg (h + ·) (Int.add_comm 1 i))

theorem pathOf_eq_ok_iff : t.pathOf h = .ok p ↔ t.paths.get? h = some p := by
  unfold pathOf
  split <;> simp_all

theorem handleOf_eq_ok_iff {text : String} {found : Option Handle} :
    t.handleOf text = .ok found ↔ ∃ p, Path.ofText text = .ok p ∧ t.handles.get? p = found := by
  unfold handleOf
  cases Path.ofText text with
  | error refusal => simp [bind, Except.bind]
  | ok p => simp [bind, Except.bind, pure, Except.pure]

/-- The pair is added if the handle is positive and both are new; otherwise the table stays as it
is.  Undoing never fails, whatever the table holds. -/
theorem registerPath_eq (t : Inodes) (h : Handle) (p : Path) :
    t.registerPath h p =
      if h ≤ 0 then (.error (.handleNotPositive h), t)
      else
        match t.paths.get? h, t.handles.get? p with
        | some old, _ => (.error (.handleMapped h old.toText), t)
        | none, some other => (.error (.pathMapped other p.toText), t)
        | none, none => (.ok (), t.add h p) := by
  unfold registerPath
  split
  · rfl
  · cases new : t.paths.get? h with
    | some old => rfl
    | none =>
      cases hp : t.handles.get? p with
      | none => simp [hp, add]
      | some other =>
        -- The entry that is taken back is the one just written, and its handle was new.
        simp [hp, undo, OrderedMap.erase_insert_of_new new]

/-- A registration that succeeds adds the pair, which is new in both directions. -/
theorem registerPath_ok (hr : (t.registerPath h p).1 = .ok ()) :
    0 < h ∧ t.paths.get? h = none ∧ t.handles.get? p = none ∧
      (t.registerPath h p).2 = t.add h p := by
  rw [registerPath_eq] at hr ⊢
  split at hr
  · cases hr
  · next hpos =>
    split at hr
    · cases hr
    · cases hr
    · next hh hp => exact ⟨Int.not_le.mp hpos, hh, hp, by simp [hpos]⟩

/-- A registration that fails leaves the table as it is. -/
theorem registerPath_error {r : Refusal} (hr : (t.registerPath h p).1 = .error r) :
    (t.registerPath h p).2 = t := by
  rw [registerPath_eq] at hr ⊢
  split
  · rfl
  · split <;> simp_all

/-- A registration is never refused because the table is broken: there is nothing that could fail to
be undone. -/
theorem code_of_registerPath {r : Refusal} (hr : (t.registerPath h p).1 = .error r) :
    r.code ≠ .internalInconsistency := by
  rw [registerPath_eq] at hr
  split at hr
  · cases hr
    simp [Refusal.code]
  · split at hr
    · cases hr
      simp [Refusal.code]
    · cases hr
      simp [Refusal.code]
    · cases hr

theorem code_of_register {text : String} {r : Refusal} (hr : (t.register h text).1 = .error r) :
    r.code ≠ .internalInconsistency := by
  unfold register at hr
  split at hr
  · exact code_of_registerPath hr
  · next refusal htext =>
    simp only [Except.error.injEq] at hr
    split at hr
    · simp [← hr, Refusal.code]
    · simp [← hr, Path.code_of_ofText htext]

/-- A path that is sighted has its handle already, or gets the one after the last. -/
theorem sightPath_eq (t : Inodes) (p : Path) :
    t.sightPath p =
      match t.handles.get? p with
      | some h => (.ok h, t)
      | none =>
        match t.draw.2.registerPath (t.last + 1) p with
        | (.ok (), registered) => (.ok (t.last + 1), registered)
        | (.error refusal, kept) => (.error refusal, kept) := rfl

theorem sightPath_of_some (hp : t.handles.get? p = some h) : t.sightPath p = (.ok h, t) := by
  rw [sightPath_eq, hp]

/-- What was sighted is registered, and otherwise only the counter moves. -/
theorem sightPath_cases (t : Inodes) (p : Path) :
    (∃ h, t.handles.get? p = some h ∧ t.sightPath p = (.ok h, t)) ∨
    (0 < t.last + 1 ∧ t.paths.get? (t.last + 1) = none ∧ t.handles.get? p = none ∧
      t.sightPath p = (.ok (t.last + 1), t.draw.2.add (t.last + 1) p)) ∨
    (t.handles.get? p = none ∧ ∃ r, t.sightPath p = (.error r, t.draw.2)) := by
  cases hp : t.handles.get? p with
  | some h => exact .inl ⟨h, rfl, sightPath_of_some hp⟩
  | none =>
    rw [sightPath_eq, hp]
    rcases hr : t.draw.2.registerPath (t.last + 1) p with ⟨_ | _, after⟩
    · -- The registration is undone, but the handle stays drawn.
      have kept := registerPath_error (congrArg Prod.fst hr)
      rw [hr] at kept
      exact .inr (.inr ⟨rfl, _, by rw [← kept]⟩)
    · obtain ⟨hpos, hh, -, added⟩ := registerPath_ok (congrArg Prod.fst hr)
      rw [hr] at added
      exact .inr (.inl ⟨hpos, hh, rfl, by rw [← added]⟩)

theorem entries_add (hh : t.paths.get? h = none) : (t.add h p).entries = t.entries ++ [(h, p)] :=
  OrderedMap.entries_insert_of_new hh

/-- A registration writes at most one pair, at the end. -/
theorem entries_prefix_registerPath (t : Inodes) (h : Handle) (p : Path) :
    t.entries <+: (t.registerPath h p).2.entries := by
  cases hr : (t.registerPath h p).1 with
  | error r => exact ⟨[], by rw [List.append_nil, registerPath_error hr]⟩
  | ok _ =>
    obtain ⟨-, hh, -, added⟩ := registerPath_ok hr
    rw [added, entries_add hh]
    exact List.prefix_append _ _

theorem entries_prefix_register (t : Inodes) (h : Handle) (text : String) :
    t.entries <+: (t.register h text).2.entries := by
  unfold register
  split
  · exact entries_prefix_registerPath t h _
  · exact List.prefix_rfl

theorem entries_prefix_sightPath (t : Inodes) (p : Path) :
    t.entries <+: (t.sightPath p).2.entries := by
  rcases sightPath_cases t p with ⟨h, -, heq⟩ | ⟨-, hh, -, heq⟩ | ⟨-, r, heq⟩
  · have kept : t.entries = (t.sightPath p).2.entries :=
      (congrArg (fun outcome => outcome.2.entries) heq).symm
    exact ⟨[], (List.append_nil _).trans kept⟩
  · rw [heq]
    exact ⟨[(t.last + 1, p)], (entries_add (t := t.draw.2) hh).symm⟩
  · have kept : t.entries = (t.sightPath p).2.entries :=
      (congrArg (fun outcome => outcome.2.entries) heq).symm
    exact ⟨[], (List.append_nil _).trans kept⟩

/-- A drawn handle is refused as registrations are. -/
theorem code_of_sightPath {r : Refusal} (hr : (t.sightPath p).1 = .error r) :
    r.code ≠ .internalInconsistency := by
  rw [sightPath_eq] at hr
  split at hr
  · cases hr
  · split at hr
    · cases hr
    · next heq =>
      cases hr
      exact code_of_registerPath (congrArg Prod.fst heq)

theorem code_of_sight {text : String} {r : Refusal} (hr : (t.sight text).1 = .error r) :
    r.code ≠ .internalInconsistency := by
  unfold sight at hr
  split at hr
  · next htext =>
    cases hr
    simp [Path.code_of_ofText htext]
  · exact code_of_sightPath hr

/-- Both directions hold the same pairs in the same order, no handle and no path comes twice, and
handles are positive. -/
structure Coherent (t : Inodes) : Prop where
  handles_eq : t.handles.entries = t.paths.entries.map Prod.swap
  handles_nodup : t.paths.keys.Nodup
  paths_nodup : t.handles.keys.Nodup
  positive : ∀ h ∈ t.paths.keys, 0 < h

namespace Coherent

theorem empty : ({} : Inodes).Coherent :=
  ⟨rfl, List.nodup_nil, List.nodup_nil, by simp [OrderedMap.keys, EmptyCollection.emptyCollection,
    OrderedMap.empty]⟩

/-- Looking up a handle finds the path beside it. -/
theorem pathGet?_iff (ht : t.Coherent) : t.paths.get? h = some p ↔ (h, p) ∈ t.entries :=
  ⟨OrderedMap.mem_of_get?, OrderedMap.get?_of_mem ht.handles_nodup⟩

/-- Looking up a path finds the handle beside it. -/
theorem handleGet?_iff (ht : t.Coherent) : t.handles.get? p = some h ↔ (h, p) ∈ t.entries := by
  have swapped : (p, h) ∈ t.handles.entries ↔ (h, p) ∈ t.entries := by
    rw [ht.handles_eq, List.mem_map]
    exact ⟨fun ⟨⟨_, _⟩, he, heq⟩ => by cases heq; exact he, fun he => ⟨_, he, rfl⟩⟩
  rw [← swapped]
  exact ⟨OrderedMap.mem_of_get?, OrderedMap.get?_of_mem ht.paths_nodup⟩

/-- A path that stands beside no handle has none. -/
theorem handleGet?_eq_none (ht : t.Coherent) (hp : ∀ h, (h, p) ∉ t.entries) :
    t.handles.get? p = none := by
  rw [Option.eq_none_iff_forall_not_mem]
  intro h hh
  exact hp h (ht.handleGet?_iff.mp hh)

/-- A path stands beside one handle only. -/
theorem handle_unique (ht : t.Coherent) {h' : Handle} (hmem : (h, p) ∈ t.entries)
    (hmem' : (h', p) ∈ t.entries) : h' = h := by
  have found := ht.handleGet?_iff.mpr hmem
  rw [ht.handleGet?_iff.mpr hmem'] at found
  exact Option.some.inj found

/-- A handle stands beside one path only. -/
theorem path_unique (ht : t.Coherent) {p' : Path} (hmem : (h, p) ∈ t.entries)
    (hmem' : (h, p') ∈ t.entries) : p' = p := by
  have found := ht.pathGet?_iff.mpr hmem
  rw [ht.pathGet?_iff.mpr hmem'] at found
  exact Option.some.inj found

/-- The handle that a spelling leads to stands beside the path that it spells. -/
theorem handleOf_iff (ht : t.Coherent) {text : String} :
    t.handleOf text = .ok (some h) ↔ ∃ p, Path.ofText text = .ok p ∧ (h, p) ∈ t.entries := by
  simp only [handleOf_eq_ok_iff, ht.handleGet?_iff]

/-- Coherence looks at the two directions and not at the counter. -/
theorem of_eq (ht : t.Coherent) (hpaths : t'.paths = t.paths) (hhandles : t'.handles = t.handles) :
    t'.Coherent := by
  obtain ⟨h₁, h₂, h₃, h₄⟩ := ht
  exact ⟨by rw [hpaths, hhandles, h₁], by rwa [hpaths], by rwa [hhandles], by rwa [hpaths]⟩

/-- Adding a pair of a positive handle that is new and a path that is new. -/
theorem add (ht : t.Coherent) (hpos : 0 < h) (hh : t.paths.get? h = none)
    (hp : t.handles.get? p = none) : (t.add h p).Coherent := by
  have pairs : (t.add h p).paths.entries = t.paths.entries ++ [(h, p)] :=
    OrderedMap.entries_insert_of_new hh
  have swapped : (t.add h p).handles.entries = t.handles.entries ++ [(p, h)] :=
    OrderedMap.entries_insert_of_new hp
  refine ⟨?_, OrderedMap.nodup_keys_insert_of_new hh ht.handles_nodup,
    OrderedMap.nodup_keys_insert_of_new hp ht.paths_nodup, ?_⟩
  · rw [swapped, pairs, ht.handles_eq, List.map_append]
    rfl
  · intro k hk
    rw [show (t.add h p).paths.keys = _ from OrderedMap.keys_insert_of_new hh,
      List.mem_append] at hk
    rcases hk with hk | hk
    · exact ht.positive k hk
    · rwa [List.mem_singleton.mp hk]

theorem registerPath (ht : t.Coherent) (h : Handle) (p : Path) :
    (t.registerPath h p).2.Coherent := by
  cases hr : (t.registerPath h p).1 with
  | error r => rwa [registerPath_error hr]
  | ok _ =>
    obtain ⟨hpos, hh, hp, added⟩ := registerPath_ok hr
    rw [added]
    exact ht.add hpos hh hp

theorem register (ht : t.Coherent) (h : Handle) (text : String) :
    (t.register h text).2.Coherent := by
  unfold Inodes.register
  split
  · exact ht.registerPath h _
  · exact ht

theorem draw (ht : t.Coherent) : t.draw.2.Coherent := ht.of_eq rfl rfl

theorem reserveRoot (ht : t.Coherent) : t.reserveRoot.2.Coherent := by
  unfold Inodes.reserveRoot
  split
  · exact ht
  · exact ht.of_eq rfl rfl

theorem sightPath (ht : t.Coherent) (p : Path) : (t.sightPath p).2.Coherent := by
  rcases sightPath_cases t p with ⟨h, -, heq⟩ | ⟨hpos, hh, hp, heq⟩ | ⟨-, r, heq⟩
  · rwa [heq]
  · rw [heq]
    exact ht.draw.add hpos hh hp
  · rw [heq]
    exact ht.draw

/-- The handle that sight of a path gives is the registered one. -/
theorem mem_of_sightPath (ht : t.Coherent) (hr : (t.sightPath p).1 = .ok h) :
    (h, p) ∈ (t.sightPath p).2.entries := by
  rcases sightPath_cases t p with ⟨k, hp, heq⟩ | ⟨-, hh, -, heq⟩ | ⟨-, r, heq⟩
  · rw [heq] at hr ⊢
    cases hr
    exact ht.handleGet?_iff.mp hp
  · rw [heq] at hr ⊢
    cases hr
    rw [entries_add (t := t.draw.2) hh]
    exact List.mem_append_right _ (List.mem_singleton.mpr rfl)
  · rw [heq] at hr
    cases hr

theorem sight (ht : t.Coherent) (text : String) : (t.sight text).2.Coherent := by
  unfold Inodes.sight
  split
  · exact ht
  · exact ht.sightPath _

theorem mountRoot (ht : t.Coherent) (p : Path) : (t.mountRoot p).2.Coherent := by
  have reserved := ht.reserveRoot
  unfold Inodes.mountRoot
  split
  · next heq => rwa [heq] at reserved
  · next heq =>
    rw [heq] at reserved
    exact reserved.registerPath _ p

end Coherent

end InodeGateway.Inodes
