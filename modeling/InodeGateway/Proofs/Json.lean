import InodeGateway.Json
import InodeGateway.Proofs.OrderedMap

/-!
# The members of documents

A document that is made of members with different names has these members and no others, whatever
the order in which the format keeps them.

## Main statements

* `Json.ofMembers_perm` — the members are kept, in another order
* `Json.get?_ofMembers` — reading a member
* `Json.ofMembers_of_named` — members whose names are no indices stand as they were written
-/

namespace InodeGateway

namespace Json

variable {members : List (String × Json)} {name : String}

theorem memberOrder_perm {α : Type} (members : List (String × α)) :
    (memberOrder members).Perm members := by
  have indexed : ((members.filterMap fun m => (indexOf? m.1).map fun n => (n, m)).map Prod.snd) =
      members.filter fun m => (indexOf? m.1).isSome := by
    induction members with
    | nil => rfl
    | cons m rest ih => cases h : indexOf? m.1 <;> simp [h, ih]
  have named : (members.filter fun m => (indexOf? m.1).isNone) =
      members.filter fun m => !(indexOf? m.1).isSome := by
    simp
  have sorted := (List.mergeSort_perm (members.filterMap fun m =>
    (indexOf? m.1).map fun n => (n, m)) fun a b => a.1 ≤ b.1).map Prod.snd
  rw [indexed] at sorted
  unfold memberOrder
  rw [named]
  exact (sorted.append_right _).trans (List.filter_append_perm _ members)

/-- Members with different names are kept, in another order. -/
theorem ofMembers_perm (nodup : (members.map Prod.fst).Nodup) :
    ∃ kept, ofMembers members = .obj kept ∧ kept.Perm members := by
  refine ⟨_, rfl, ?_⟩
  rw [OrderedMap.entries_ofList nodup]
  exact memberOrder_perm members

theorem get?_ofMembers (nodup : (members.map Prod.fst).Nodup) :
    (ofMembers members).get? name = OrderedMap.find name members := by
  obtain ⟨kept, heq, perm⟩ := ofMembers_perm nodup
  rw [heq, get?]
  exact OrderedMap.find_of_perm perm nodup

/-- Of members of one name the last one counts. -/
theorem get?_ofMembers_last (members : List (String × Json)) (name : String) :
    (ofMembers members).get? name = (OrderedMap.ofList members).get? name :=
  OrderedMap.find_of_perm (memberOrder_perm _) (OrderedMap.nodup_keys_ofList members)

/-- Members whose names are no indices stand as they were written. -/
theorem ofMembers_of_named (nodup : (members.map Prod.fst).Nodup)
    (named : ∀ m ∈ members, indexOf? m.1 = none) : ofMembers members = .obj members := by
  have indexed : members.filterMap (fun m => (indexOf? m.1).map fun n => (n, m)) = [] := by
    rw [List.filterMap_eq_nil_iff]
    exact fun m hm => by rw [named m hm, Option.map_none]
  have kept : members.filter (fun m => (indexOf? m.1).isNone) = members := by
    rw [List.filter_eq_self]
    exact fun m hm => by rw [named m hm, Option.isNone_none]
  rw [ofMembers, OrderedMap.entries_ofList nodup, memberOrder, indexed, kept]
  simp

end Json

end InodeGateway
