/-!
# Maps that keep the order of insertion

A finite map as the list of its pairs.  Writing a key that is present replaces the value where it
stands; a new key goes to the end.

## Main definitions

* `OrderedMap` — the pairs, in the order in which their keys were first written
* `OrderedMap.get?`, `OrderedMap.insert`, `OrderedMap.erase`

## Main statements

* `OrderedMap.get?_insert` — what reading sees after a write
-/

namespace InodeGateway

/-- A finite map that remembers the order in which its keys were first written. -/
structure OrderedMap (κ α : Type) where
  /-- The pairs, oldest first. -/
  entries : List (κ × α)
  deriving Repr, DecidableEq

namespace OrderedMap

variable {κ α : Type} [DecidableEq κ]

/-- The map without pairs. -/
def empty : OrderedMap κ α := ⟨[]⟩

instance : EmptyCollection (OrderedMap κ α) := ⟨empty⟩

instance : Inhabited (OrderedMap κ α) := ⟨empty⟩

/-- The value of `k` in a list of pairs: the first one counts. -/
def find (k : κ) : List (κ × α) → Option α
  | [] => none
  | (k', v) :: rest => if k' = k then some v else find k rest

/-- Replaces the value of `k` where it stands, or adds the pair at the end. -/
def put (k : κ) (v : α) : List (κ × α) → List (κ × α)
  | [] => [(k, v)]
  | (k', v') :: rest => if k' = k then (k, v) :: rest else (k', v') :: put k v rest

/-- The value of a key. -/
def get? (m : OrderedMap κ α) (k : κ) : Option α := find k m.entries

/-- Whether a key has a value. -/
def contains (m : OrderedMap κ α) (k : κ) : Bool := (m.get? k).isSome

def insert (m : OrderedMap κ α) (k : κ) (v : α) : OrderedMap κ α := ⟨put k v m.entries⟩

/-- Takes the key `k` away. -/
def erase (m : OrderedMap κ α) (k : κ) : OrderedMap κ α :=
  ⟨m.entries.filter fun e => e.1 ≠ k⟩

/-- Changes the value of `k`, if it has one. -/
def modify (m : OrderedMap κ α) (k : κ) (f : α → α) : OrderedMap κ α :=
  ⟨m.entries.map fun e => if e.1 = k then (e.1, f e.2) else e⟩

/-- The number of pairs. -/
def size (m : OrderedMap κ α) : Nat := m.entries.length

/-- The keys, oldest first. -/
def keys (m : OrderedMap κ α) : List κ := m.entries.map Prod.fst

/-- The values, in the order of their keys. -/
def values (m : OrderedMap κ α) : List α := m.entries.map Prod.snd

/-- The map of the pairs written one after another. -/
def ofList (pairs : List (κ × α)) : OrderedMap κ α :=
  pairs.foldl (fun m e => m.insert e.1 e.2) empty

theorem find_put (k : κ) (v : α) (l : List (κ × α)) (k' : κ) :
    find k' (put k v l) = if k = k' then some v else find k' l := by
  induction l with
  | nil => simp [put, find]
  | cons e rest ih => grind [put, find]

/-- Reading after a write sees the new value under its key and the old ones elsewhere. -/
theorem get?_insert (m : OrderedMap κ α) (k : κ) (v : α) (k' : κ) :
    (m.insert k v).get? k' = if k = k' then some v else m.get? k' :=
  find_put k v m.entries k'

@[simp] theorem get?_insert_self (m : OrderedMap κ α) (k : κ) (v : α) :
    (m.insert k v).get? k = some v := by simp [get?_insert]

theorem find_filter_ne (k : κ) (l : List (κ × α)) (k' : κ) :
    find k' (l.filter fun e => e.1 ≠ k) = if k = k' then none else find k' l := by
  induction l with
  | nil => simp [find]
  | cons e rest ih => grind [find]

/-- A key without a value goes to the end. -/
theorem put_eq_append {k : κ} {v : α} {l : List (κ × α)} (h : find k l = none) :
    put k v l = l ++ [(k, v)] := by
  induction l with
  | nil => rfl
  | cons e rest ih =>
    obtain ⟨k₁, v₁⟩ := e
    by_cases h₁ : k₁ = k
    · simp [find, h₁] at h
    · simp [find, h₁] at h
      simp [put, h₁, ih h]

end OrderedMap

end InodeGateway
