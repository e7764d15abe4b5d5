import InodeGateway.Http.Schema
import InodeGateway.Proofs.Arguments

/-!
# What documents have to say

The documents that clients send are looked at member by member.  Here is what is let through, said
without the checks.

## Main definitions

* `Http.HasWhole`, `Http.Describes` — a member that is a whole number, a document about a principal
* `Http.AccessForm.FilledBy`, `Http.CreationForm.FilledBy` — a document says what a form holds

## Main statements

* `Http.AccessForm.check_eq_ok_iff`, `Http.CreationForm.check_eq_ok_iff` — the documents that are
  let through, and what is read from them
-/

namespace InodeGateway.Http

/-- A member is a whole number that is not below zero. -/
def HasWhole (members : List (String × Json)) (name : String) (x : Num) : Prop :=
  OrderedMap.find name members = some (.num x) ∧ x.IsWhole

/-- A document describes a principal by two numbers.  It may have a name, which is a text of some
characters and does not count. -/
def Describes (document : Json) (p : Principal) : Prop :=
  ∃ members, document = .obj members ∧ HasWhole members "uid" p.userId ∧
    HasWhole members "gid" p.groupId ∧
    ∀ j, OrderedMap.find "name" members = some j → ∃ text, j = .str text ∧ text ≠ ""

/-- A document says which mask is asked about. -/
def AccessForm.FilledBy (form : AccessForm) (document : Json) : Prop :=
  ∃ members, document = .obj members ∧ HasWhole members "mask" form.mask

/-- The members of a document say which object is asked for.  Mode and owner may be left out, and
are the usual ones then. -/
structure CreationForm.Told (form : CreationForm) (members : List (String × Json)) : Prop where
  name : OrderedMap.find "name" members = some (.str form.name)
  filled : form.name ≠ ""
  kind : OrderedMap.find "kind" members = some (.str form.kind.text)
  mode : (OrderedMap.find "mode" members = none ∧ form.mode = Num.ofNat 0o644) ∨
    HasWhole members "mode" form.mode
  owner : (OrderedMap.find "owner" members = none ∧ form.owner = ⟨0, 0⟩) ∨
    ∃ j, OrderedMap.find "owner" members = some j ∧ Describes j form.owner

def CreationForm.FilledBy (form : CreationForm) (document : Json) : Prop :=
  ∃ members, document = .obj members ∧ form.Told members

namespace Checked

variable {α β : Type} {member : String} {j : Option Json}

theorem both_eq_ok_iff {a : Checked α} {b : Checked β} {x : α} {y : β} :
    a.both b = .ok (x, y) ↔ a = .ok x ∧ b = .ok y := by
  cases a <;> cases b <;> simp [both]

theorem filled_eq_ok_iff {text t : String} :
    filled member text = .ok t ↔ text ≠ "" ∧ t = text := by
  unfold filled complain
  by_cases h : text = ""
  · simp [h]
  · simpa [h] using eq_comm

theorem text_eq_ok_iff {t : String} : text member j = .ok t ↔ j = some (.str t) ∧ t ≠ "" := by
  rcases j with _ | j
  · simp [text, complain]
  · cases j with
    | str s =>
      simp only [text, filled_eq_ok_iff, Option.some.injEq, Json.str.injEq]
      grind
    | _ => simp [text, complain]

theorem naturalComplaints_eq_nil_iff {x : Num} : naturalComplaints member x = [] ↔ x.IsWhole := by
  rw [← Num.isNatural_iff, Num.isNatural]
  unfold naturalComplaints
  cases x.isInteger <;> cases x.isNegative <;> simp

theorem natural_eq_ok_iff {x : Num} :
    natural member j = .ok x ↔ j = some (.num x) ∧ x.IsWhole := by
  rcases j with _ | j
  · simp [natural, complain]
  · cases j with
    | num y =>
      simp only [natural, Option.some.injEq, Json.num.injEq]
      have whole : naturalComplaints member y = [] ↔ y.IsWhole := naturalComplaints_eq_nil_iff
      cases h : naturalComplaints member y <;> rw [h] at whole <;> grind
    | _ => simp [natural, complain]

theorem kind_eq_ok_iff {k : Kind} : kind member j = .ok k ↔ j = some (.str k.text) := by
  rcases j with _ | j
  · simp [kind, complain]
  · cases j with
    | str s =>
      simp only [kind, Kind.ofText?, Option.some.injEq, Json.str.injEq]
      by_cases hfile : s = "file"
      · subst hfile
        cases k <;> simp [Kind.text]
      · by_cases hdirectory : s = "directory"
        · subst hdirectory
          cases k <;> simp [Kind.text]
        · cases k <;> simp [hfile, hdirectory, Kind.text, complain]
    | _ => simp [kind, complain]

theorem orElse_eq_ok_iff {check : Option Json → Checked α} {value x : α} :
    orElse check value j = .ok x ↔ (j = none ∧ x = value) ∨ (j ≠ none ∧ check j = .ok x) := by
  cases j <;> simp [orElse, eq_comm]

theorem optional_eq_ok_iff {check : Option Json → Checked α} :
    (∃ x, optional check j = .ok x) ↔ j = none ∨ ∃ x, check j = .ok x := by
  cases j with
  | none => simp [optional]
  | some j =>
    have mapped : optional check (some j) = (check (some j)).map some := rfl
    rw [mapped]
    cases check (some j) <;> simp [Except.map]

theorem members_eq_ok_iff {document : Json} {list : List (String × Json)} :
    members document = .ok list ↔ document = .obj list := by
  cases document <;> simp [members]

theorem principal_eq_ok_iff {p : Principal} :
    principal member j = .ok p ↔ ∃ d, j = some d ∧ Describes d p := by
  rcases j with _ | j
  · simp [principal, complain]
  · cases j with
    | obj list =>
      have whole : ∀ {name x}, HasWhole list name x ↔
          natural member (OrderedMap.find name list) = .ok x := natural_eq_ok_iff.symm
      simp only [Option.some.injEq, exists_eq_left', Describes, Json.obj.injEq, whole]
      have named : (∀ j, OrderedMap.find "name" list = some j → ∃ t, j = .str t ∧ t ≠ "") ↔
          ∃ x, optional (text member) (OrderedMap.find "name" list) = .ok x := by
        rw [optional_eq_ok_iff]
        cases OrderedMap.find "name" list with
        | none => simp
        | some j => simp [text_eq_ok_iff]
      rw [named]
      constructor
      · intro h
        obtain ⟨⟨⟨uid, gid⟩, name⟩, hparts, h⟩ := ok_of_bind h
        obtain ⟨hnumbers, hname⟩ := both_eq_ok_iff.mp hparts
        obtain ⟨huid, hgid⟩ := both_eq_ok_iff.mp hnumbers
        cases h
        exact ⟨huid, hgid, name, hname⟩
      · rintro ⟨huid, hgid, name, hname⟩
        have parts := both_eq_ok_iff.mpr ⟨both_eq_ok_iff.mpr ⟨huid, hgid⟩, hname⟩
        exact bind_eq_ok parts rfl
    | _ => simp [principal, complain, Describes]

end Checked

theorem AccessForm.check_eq_ok_iff {document : Json} {form : AccessForm} :
    check document = .ok form ↔ form.FilledBy document := by
  unfold AccessForm.FilledBy HasWhole
  constructor
  · intro h
    obtain ⟨list, hlist, h⟩ := ok_of_bind h
    obtain ⟨mask, hmask, h⟩ := ok_of_bind h
    cases h
    exact ⟨list, Checked.members_eq_ok_iff.mp hlist, Checked.natural_eq_ok_iff.mp hmask⟩
  · rintro ⟨list, rfl, hmask⟩
    exact bind_eq_ok rfl (bind_eq_ok (Checked.natural_eq_ok_iff.mpr hmask) rfl)

theorem CreationForm.told_iff {list : List (String × Json)} {form : CreationForm} :
    form.Told list ↔ Checked.text "name" (OrderedMap.find "name" list) = .ok form.name ∧
      Checked.kind "kind" (OrderedMap.find "kind" list) = .ok form.kind ∧
      Checked.orElse (Checked.natural "mode") usualMode (OrderedMap.find "mode" list) =
        .ok form.mode ∧
      Checked.orElse (Checked.principal "owner") usualOwner (OrderedMap.find "owner" list) =
        .ok form.owner := by
  rw [Checked.text_eq_ok_iff, Checked.kind_eq_ok_iff, Checked.orElse_eq_ok_iff,
    Checked.orElse_eq_ok_iff, Checked.natural_eq_ok_iff, Checked.principal_eq_ok_iff]
  constructor
  · rintro ⟨name, filled, kind, mode, owner⟩
    refine ⟨⟨name, filled⟩, kind, mode.imp id fun h => ⟨by rw [h.1]; simp, h⟩, owner.imp id ?_⟩
    rintro ⟨d, hd, described⟩
    exact ⟨by rw [hd]; simp, d, hd, described⟩
  · rintro ⟨⟨name, filled⟩, kind, mode, owner⟩
    exact ⟨name, filled, kind, mode.imp id And.right, owner.imp id And.right⟩

theorem CreationForm.check_eq_ok_iff {document : Json} {form : CreationForm} :
    check document = .ok form ↔ form.FilledBy document := by
  constructor
  · intro h
    obtain ⟨list, hlist, h⟩ := ok_of_bind h
    obtain ⟨⟨⟨⟨name, kind⟩, mode⟩, owner⟩, hparts, h⟩ := ok_of_bind h
    simp only [Checked.both_eq_ok_iff] at hparts
    obtain ⟨⟨⟨hname, hkind⟩, hmode⟩, howner⟩ := hparts
    cases h
    exact ⟨list, Checked.members_eq_ok_iff.mp hlist, told_iff.mpr ⟨hname, hkind, hmode, howner⟩⟩
  · rintro ⟨list, rfl, told⟩
    obtain ⟨hname, hkind, hmode, howner⟩ := told_iff.mp told
    have parts := Checked.both_eq_ok_iff.mpr ⟨Checked.both_eq_ok_iff.mpr
      ⟨Checked.both_eq_ok_iff.mpr ⟨hname, hkind⟩, hmode⟩, howner⟩
    exact bind_eq_ok rfl (bind_eq_ok parts rfl)

end InodeGateway.Http
