import InodeGateway.OrderedMap
import Mathlib.Data.List.Induction

/-!
# Reading the pairs of an ordered map

What a look-up says about the list of pairs: a value that is found stands in the list, a list whose
keys are all different gives back each of its pairs, and a key that is new goes to the end.

## Main statements

* `OrderedMap.mem_of_get?`, `OrderedMap.get?_of_mem` — between look-ups and pairs
* `OrderedMap.find_eq_some_iff` — where a value is found
* `OrderedMap.entries_insert_of_new` — a new key goes to the end
* `OrderedMap.erase_insert_of_new` — taking a new key back restores the map
* `OrderedMap.get?_modify` — what reading sees after a change
* `OrderedMap.nodup_keys_insert` — writing keeps the keys apart
* `OrderedMap.get?_ofList` — of pairs written one after another, the last one with a key counts
-/

namespace InodeGateway.OrderedMap

variable {κ α : Type} [DecidableEq κ] {m : OrderedMap κ α} {k : κ} {v : α}

theorem find_eq_none_iff {l : List (κ × α)} : find k l = none ↔ k ∉ l.map Prod.fst := by
  induction l with
  | nil => simp [find]
  | cons e rest ih =>
    obtain ⟨k', v'⟩ := e
    by_cases h : k' = k
    · simp [find, h]
    · simp [find, h, ih, Ne.symm h]

/-- A key has no value exactly if it is none of the keys. -/
theorem get?_eq_none_iff : m.get? k = none ↔ k ∉ m.keys := find_eq_none_iff

theorem mem_of_find {l : List (κ × α)} (h : find k l = some v) : (k, v) ∈ l := by
  induction l with
  | nil => simp [find] at h
  | cons e rest ih =>
    obtain ⟨k', v'⟩ := e
    by_cases hk : k' = k
    · simp [find, hk] at h
      simp [hk, h]
    · simp [find, hk] at h
      exact List.mem_cons_of_mem _ (ih h)

/-- A value that is found stands under its key. -/
theorem mem_of_get? (h : m.get? k = some v) : (k, v) ∈ m.entries := mem_of_find h

/-- A value is found where it stands under its key for the first time. -/
theorem find_eq_some_iff {l : List (κ × α)} : find k l = some v ↔
    ∃ before after, l = before ++ (k, v) :: after ∧ k ∉ before.map Prod.fst := by
  constructor
  · intro h
    induction l with
    | nil => simp [find] at h
    | cons e rest ih =>
      obtain ⟨k', v'⟩ := e
      by_cases hk : k' = k
      · simp [find, hk] at h
        exact ⟨[], rest, by simp [hk, h], by simp⟩
      · simp [find, hk] at h
        obtain ⟨before, after, rfl, fresh⟩ := ih h
        exact ⟨(k', v') :: before, after, rfl, by simpa [Ne.symm hk] using fresh⟩
  · rintro ⟨before, after, rfl, fresh⟩
    induction before with
    | nil => simp [find]
    | cons e rest ih =>
      obtain ⟨hk, fresh⟩ : k ≠ e.1 ∧ k ∉ rest.map Prod.fst := by simpa using fresh
      simpa [find, hk.symm] using ih fresh

theorem find_of_mem {l : List (κ × α)} (hl : (l.map Prod.fst).Nodup) (h : (k, v) ∈ l) :
    find k l = some v := by
  induction l with
  | nil => simp at h
  | cons e rest ih =>
    obtain ⟨k', v'⟩ := e
    rw [List.map_cons, List.nodup_cons] at hl
    rcases List.mem_cons.mp h with heq | hrest
    · cases heq
      simp [find]
    · have hk : k' ≠ k := by
        rintro rfl
        exact hl.1 (List.mem_map.mpr ⟨_, hrest, rfl⟩)
      simpa [find, hk] using ih hl.2 hrest

/-- Where all keys are different, each pair is found. -/
theorem get?_of_mem (hm : m.keys.Nodup) (h : (k, v) ∈ m.entries) : m.get? k = some v :=
  find_of_mem hm h

theorem entries_insert_of_new (h : m.get? k = none) :
    (m.insert k v).entries = m.entries ++ [(k, v)] := put_eq_append h

theorem keys_insert_of_new (h : m.get? k = none) : (m.insert k v).keys = m.keys ++ [k] := by
  rw [keys, entries_insert_of_new h, List.map_append]
  rfl

theorem nodup_keys_insert_of_new (h : m.get? k = none) (hm : m.keys.Nodup) :
    (m.insert k v).keys.Nodup := by
  rw [keys_insert_of_new h, List.nodup_append]
  refine ⟨hm, by simp, ?_⟩
  rintro k' hk' _ hmem rfl
  rw [List.mem_singleton.mp hmem] at hk'
  exact get?_eq_none_iff.mp h hk'

/-- A new key that is taken back leaves no trace. -/
theorem erase_insert_of_new (h : m.get? k = none) : (m.insert k v).erase k = m := by
  have other : ∀ e ∈ m.entries, e.1 ≠ k := by
    rintro ⟨k', v'⟩ he rfl
    exact get?_eq_none_iff.mp h (List.mem_map.mpr ⟨_, he, rfl⟩)
  have kept : (m.entries.filter fun e => e.1 ≠ k) = m.entries := by
    rw [List.filter_eq_self]
    exact fun e he => decide_eq_true (other e he)
  show (⟨(m.insert k v).entries.filter fun e => e.1 ≠ k⟩ : OrderedMap κ α) = m
  rw [entries_insert_of_new h, List.filter_append, kept]
  simp

theorem find_map_modify (k : κ) (f : α → α) (l : List (κ × α)) (k' : κ) :
    find k' (l.map fun e => if e.1 = k then (e.1, f e.2) else e) =
      if k = k' then (find k' l).map f else find k' l := by
  induction l with
  | nil => simp [find]
  | cons e rest ih => grind [find]

/-- Reading after a change sees the changed value under its key and the old ones elsewhere. -/
theorem get?_modify (m : OrderedMap κ α) (k : κ) (f : α → α) (k' : κ) :
    (m.modify k f).get? k' = if k = k' then (m.get? k').map f else m.get? k' :=
  find_map_modify k f m.entries k'

theorem keys_modify (m : OrderedMap κ α) (k : κ) (f : α → α) : (m.modify k f).keys = m.keys := by
  rw [keys, modify, keys, List.map_map]
  refine List.map_congr_left fun e _ => ?_
  rw [Function.comp_apply]
  split <;> rfl

section Pairs

variable {l l' : List (κ × α)}

theorem find_of_perm (h : l'.Perm l) (nodup : (l.map Prod.fst).Nodup) : find k l' = find k l := by
  have nodup' : (l'.map Prod.fst).Nodup := (h.map Prod.fst).nodup_iff.mpr nodup
  cases hk : find k l with
  | some v => exact find_of_mem nodup' (h.symm.subset (mem_of_find hk))
  | none =>
    rw [find_eq_none_iff] at hk ⊢
    exact fun hmem => hk ((h.map Prod.fst).subset hmem)

/-- Pairs with different keys are all kept where they stand. -/
theorem entries_ofList (nodup : (l.map Prod.fst).Nodup) : (ofList l).entries = l := by
  have from_any : ∀ (l : List (κ × α)) (m : OrderedMap κ α),
      (m.keys ++ l.map Prod.fst).Nodup →
      (l.foldl (fun m e => m.insert e.1 e.2) m).entries = m.entries ++ l := by
    intro l
    induction l with
    | nil => simp
    | cons e rest ih =>
      intro m nodup
      have fresh : m.get? e.1 = none := by
        rw [get?_eq_none_iff]
        intro hmem
        exact (List.nodup_append.mp nodup).2.2 _ hmem _ List.mem_cons_self rfl
      rw [List.foldl_cons, ih, entries_insert_of_new fresh, List.append_assoc]
      · rfl
      · simpa [keys_insert_of_new fresh] using nodup
  exact from_any l empty (by simpa [empty, keys] using nodup)

/-- Writing a pair keeps the keys apart, whether its key is new or not. -/
theorem nodup_keys_insert {m : OrderedMap κ α} (hm : m.keys.Nodup) (k : κ) (v : α) :
    (m.insert k v).keys.Nodup := by
  cases hk : m.get? k with
  | none => exact nodup_keys_insert_of_new hk hm
  | some old =>
    have kept : ∀ l : List (κ × α), find k l = some old → (put k v l).map Prod.fst =
        l.map Prod.fst := by
      intro l
      induction l with
      | nil => simp [find]
      | cons e rest ih => grind [find, put]
    have keys : (m.insert k v).keys = m.keys := kept m.entries hk
    rwa [keys]

theorem nodup_keys_ofList (l : List (κ × α)) : (ofList l).keys.Nodup := by
  have from_any : ∀ (l : List (κ × α)) (m : OrderedMap κ α), m.keys.Nodup →
      (l.foldl (fun m e => m.insert e.1 e.2) m).keys.Nodup := by
    intro l
    induction l with
    | nil => exact fun _ hm => hm
    | cons e rest ih => exact fun m hm => ih _ (nodup_keys_insert hm e.1 e.2)
  exact from_any l empty List.nodup_nil

/-- Of the pairs written one after another, the last one with a key counts. -/
theorem get?_ofList (l : List (κ × α)) (k : κ) : (ofList l).get? k = find k l.reverse := by
  induction l using List.reverseRecOn with
  | nil => rfl
  | append_singleton l e ih =>
    have last : ofList (l ++ [e]) = (ofList l).insert e.1 e.2 := by
      rw [ofList, List.foldl_append]
      rfl
    rw [last, get?_insert, ih, List.reverse_append, List.reverse_singleton, List.singleton_append,
      find]

/-- What is written under one key is not seen under another, whatever is written later. -/
theorem get?_ofList_cons {k k' : κ} (h : k' ≠ k) (v v' : α) (l : List (κ × α)) :
    (ofList ((k', v) :: l)).get? k = (ofList ((k', v') :: l)).get? k := by
  have from_any : ∀ (l : List (κ × α)) (m m' : OrderedMap κ α), m.get? k = m'.get? k →
      (l.foldl (fun m e => m.insert e.1 e.2) m).get? k =
        (l.foldl (fun m e => m.insert e.1 e.2) m').get? k := by
    intro l
    induction l with
    | nil => exact fun _ _ hm => hm
    | cons e rest ih =>
      intro m m' hm
      exact ih _ _ (by rw [get?_insert, get?_insert, hm])
  exact from_any l _ _ (by rw [get?_insert, get?_insert, if_neg h, if_neg h])

end Pairs

end InodeGateway.OrderedMap
