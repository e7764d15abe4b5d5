import InodeGateway.Http.Schema
import InodeGateway.Proofs.Gateway.Shown
import InodeGateway.Proofs.Json

/-!
# What stands in replies

A reply of success holds what the gateway answered; any other reply holds an error, with its code,
its message and its details.

## Main definitions

* `Json.HoldsHandle` — the handles in a document
* `Http.Reply.Succeeds` — a reply of success
* `Http.Reply.Status` — the status for each class of failure
* `Http.Reply.Refuses`, `Http.Reply.Reports` — a refusal of the request, and a report of a failure

## Main statements

* `Http.Reply.attributes?_of_dated`, `Http.Reply.entries?_of_dated` — what can be written
* `Http.Reply.holdsHandle_attributes`, `Http.Reply.holdsHandle_entries` — the handles in what is
  written
* `Http.Reply.reports_ofFailure` — a failure of the gateway is reported
-/

namespace InodeGateway

namespace Json

variable {members : List (String × Json)} {value : Json}

/-- The names under which documents hold handles. -/
def handleNames : List String := ["handle", "ino", "fileId"]

/-- A document holds a value as a handle, at whatever depth. -/
inductive HoldsHandle : Json → Json → Prop
  | here {members : List (String × Json)} {name : String} {value : Json} (named : name ∈ handleNames)
      (h : (name, value) ∈ members) : HoldsHandle (.obj members) value
  | inMember {members : List (String × Json)} {name : String} {j value : Json}
      (hj : (name, j) ∈ members) (h : HoldsHandle j value) : HoldsHandle (.obj members) value
  | inItem {items : List Json} {j value : Json} (hj : j ∈ items) (h : HoldsHandle j value) :
      HoldsHandle (.arr items) value

/-- A document without parts. -/
def IsPlain : Json → Prop
  | .arr _ | .obj _ => False
  | _ => True

theorem IsPlain.not_holdsHandle {j : Json} (plain : j.IsPlain) : ¬ j.HoldsHandle value := by
  intro h
  cases h <;> exact plain

theorem HoldsHandle.of_ofMembers (nodup : (members.map Prod.fst).Nodup)
    (h : (ofMembers members).HoldsHandle value) :
    ∃ name j, (name, j) ∈ members ∧ (name ∈ handleNames ∧ j = value ∨ j.HoldsHandle value) := by
  obtain ⟨kept, heq, perm⟩ := ofMembers_perm nodup
  rw [heq] at h
  cases h with
  | here named h => exact ⟨_, _, perm.subset h, .inl ⟨named, rfl⟩⟩
  | inMember hj h => exact ⟨_, _, perm.subset hj, .inr h⟩

/-- Where no member has parts, the handles are members. -/
theorem HoldsHandle.of_plain (nodup : (members.map Prod.fst).Nodup)
    (plain : ∀ e ∈ members, e.2.IsPlain) (h : (ofMembers members).HoldsHandle value) :
    ∃ name ∈ handleNames, (name, value) ∈ members := by
  obtain ⟨name, j, hj, ⟨named, rfl⟩ | h⟩ := h.of_ofMembers nodup
  · exact ⟨name, named, hj⟩
  · exact absurd h (plain _ hj).not_holdsHandle

end Json

namespace Http

namespace Reply

variable {σ : Type} {g : Gateway σ} {a : Attributes} {document value : Json} {reply : Reply}

/-- Attributes with times that can be written can be written. -/
theorem attributes?_of_dated (h : g.MadeOf Metadata.Dated a) :
    ∃ document, attributes? a = some document := by
  obtain ⟨k, m, userId, ⟨created, modified⟩, rfl⟩ := h
  have written : ∀ {i : Instant}, i ≠ .invalid → ∃ text, i.toIso? = some text := by
    intro i hi
    cases i with
    | invalid => exact absurd rfl hi
    | «at» ms => exact ⟨_, rfl⟩
  obtain ⟨created, hcreated⟩ := written created
  obtain ⟨modified, hmodified⟩ := written modified
  exact ⟨_, by simp [attributes?, Attributes.shown, Attributes.accessedAt, hcreated, hmodified]; rfl⟩

theorem holdsHandle_attributes (hdocument : attributes? a = some document)
    (h : document.HoldsHandle value) : value = .str a.inode.toText := by
  unfold attributes? at hdocument
  simp only [Option.bind_eq_bind, Option.bind_eq_some_iff, Option.pure_def, Option.some.injEq]
    at hdocument
  obtain ⟨accessed, -, modified, -, created, -, rfl⟩ := hdocument
  obtain ⟨name, named, hmem⟩ := h.of_plain (by simp) (by simp [Json.IsPlain])
  simp only [Json.handleNames, List.mem_cons, List.not_mem_nil, or_false] at named
  rcases named with rfl | rfl | rfl
  · simp at hmem
  · simpa using hmem
  · simpa [Attributes.fileId] using hmem

theorem holdsHandle_handle {k : Handle} (h : (handle k).HoldsHandle value) :
    value = .str k.toText := by
  obtain ⟨name, -, hmem⟩ := Json.HoldsHandle.of_plain (by simp) (by simp [Json.IsPlain]) h
  simpa using (Prod.mk.inj (List.mem_singleton.mp hmem)).2

/-- What is granted tells of no handle. -/
theorem not_holdsHandle_granted {mask : Num} {granted : Nat} :
    ¬ (Json.ofMembers [("requested", mask), ("granted", granted)]).HoldsHandle value := by
  intro h
  obtain ⟨name, named, hmem⟩ := h.of_plain (by simp) (by simp [Json.IsPlain])
  simp only [Json.handleNames, List.mem_cons, List.not_mem_nil, or_false] at named
  rcases named with rfl | rfl | rfl <;> simp at hmem

theorem holdsHandle_entry {e : DirectoryEntry} (hdocument : entry? e = some document)
    (h : document.HoldsHandle value) :
    value = .str e.handle.toText ∨ value = .str e.attributes.inode.toText := by
  unfold entry? at hdocument
  simp only [Option.bind_eq_bind, Option.bind_eq_some_iff, Option.pure_def, Option.some.injEq]
    at hdocument
  obtain ⟨shown, hshown, rfl⟩ := hdocument
  obtain ⟨name, j, hmem, ⟨named, rfl⟩ | inner⟩ := h.of_ofMembers (by simp)
  · simp only [Json.handleNames, List.mem_cons, List.not_mem_nil, or_false] at named
    rcases named with rfl | rfl | rfl
    · exact .inl (by simpa using hmem)
    · simp at hmem
    · simp at hmem
  · simp only [List.mem_cons, Prod.mk.injEq, List.not_mem_nil, or_false] at hmem
    rcases hmem with ⟨-, rfl⟩ | ⟨-, rfl⟩ | ⟨-, rfl⟩
    · exact absurd inner (Json.IsPlain.not_holdsHandle trivial)
    · exact absurd inner (Json.IsPlain.not_holdsHandle trivial)
    · exact .inr (holdsHandle_attributes hshown inner)

theorem mem_of_entries {list : List DirectoryEntry} {items : List Json}
    (h : list.mapM entry? = some items) : ∀ j ∈ items, ∃ e ∈ list, entry? e = some j := by
  induction list generalizing items with
  | nil =>
    cases h
    exact nofun
  | cons e rest ih =>
    simp only [List.mapM_cons, Option.bind_eq_bind, Option.bind_eq_some_iff, Option.pure_def,
      Option.some.injEq] at h
    obtain ⟨first, hfirst, others, hothers, rfl⟩ := h
    refine List.forall_mem_cons.mpr ⟨⟨e, List.mem_cons_self, hfirst⟩, fun j hj => ?_⟩
    obtain ⟨e', he', heq⟩ := ih hothers j hj
    exact ⟨e', List.mem_cons_of_mem _ he', heq⟩

theorem entries?_of_dated {list : List DirectoryEntry}
    (h : ∀ e ∈ list, g.MadeOf Metadata.Dated e.attributes) :
    ∃ document, entries? list = some document := by
  have written : ∃ items, list.mapM entry? = some items := by
    induction list with
    | nil => exact ⟨[], rfl⟩
    | cons e rest ih =>
      obtain ⟨he, hrest⟩ := List.forall_mem_cons.mp h
      obtain ⟨shown, hshown⟩ := attributes?_of_dated he
      obtain ⟨items, hitems⟩ := ih hrest
      simp [List.mapM_cons, entry?, hshown, hitems]
  obtain ⟨items, hitems⟩ := written
  exact ⟨.arr items, by rw [entries?, hitems]; rfl⟩

theorem holdsHandle_entries {list : List DirectoryEntry} (hdocument : entries? list = some document)
    (h : document.HoldsHandle value) :
    ∃ e ∈ list, value = .str e.handle.toText ∨ value = .str e.attributes.inode.toText := by
  obtain ⟨items, hitems, rfl⟩ := Option.map_eq_some_iff.mp hdocument
  cases h with
  | inItem hj h =>
    obtain ⟨e, he, hentry⟩ := mem_of_entries hitems _ hj
    exact ⟨e, he, holdsHandle_entry hentry h⟩

theorem created?_of_dated (made : Handle) (h : g.MadeOf Metadata.Dated a) :
    ∃ document, created? (made, a) = some document := by
  obtain ⟨shown, hshown⟩ := attributes?_of_dated h
  exact ⟨_, by simp [created?, hshown]; rfl⟩

theorem holdsHandle_created {made : Handle} (hdocument : created? (made, a) = some document)
    (h : document.HoldsHandle value) :
    value = .str made.toText ∨ value = .str a.inode.toText := by
  unfold created? at hdocument
  simp only [Option.bind_eq_bind, Option.bind_eq_some_iff, Option.pure_def, Option.some.injEq]
    at hdocument
  obtain ⟨shown, hshown, rfl⟩ := hdocument
  obtain ⟨name, j, hmem, ⟨named, rfl⟩ | inner⟩ := h.of_ofMembers (by simp)
  · simp only [Json.handleNames, List.mem_cons, List.not_mem_nil, or_false] at named
    rcases named with rfl | rfl | rfl
    · exact .inl (by simpa using hmem)
    · simp at hmem
    · simp at hmem
  · simp only [List.mem_cons, Prod.mk.injEq, List.not_mem_nil, or_false] at hmem
    rcases hmem with ⟨-, rfl⟩ | ⟨-, rfl⟩
    · exact absurd inner (Json.IsPlain.not_holdsHandle trivial)
    · exact .inr (holdsHandle_attributes hshown inner)

/-- A reply of success. -/
def Succeeds (reply : Reply) : Prop := 200 ≤ reply.status ∧ reply.status < 300

/-- A reply holds a value as a handle. -/
def HoldsHandle (reply : Reply) (value : Json) : Prop :=
  ∃ body, reply.content = .json body ∧ body.HoldsHandle value

/-- What a reply says of an error, under a name. -/
def ofError? (reply : Reply) (name : String) : Option Json :=
  match reply.content with
  | .json body => (body.get? "error").bind (Json.get? name)
  | _ => none

/-- The request was not in order. -/
structure Refuses (reply : Reply) : Prop where
  status : reply.status = 400
  code : reply.ofError? "code" = some (.str "INVALID_ARGUMENT") ∨
    reply.ofError? "code" = some (.str "INVALID_REQUEST")

/-- The status under which each class of failure is reported. -/
inductive Status : Code → Nat → Prop
  | invalidArgument : Status .invalidArgument 400
  | permissionDenied : Status .permissionDenied 403
  | notFound : Status .notFound 404
  | alreadyExists : Status .alreadyExists 409
  | alreadyMapped : Status .alreadyMapped 409
  | notSupported : Status .notSupported 501
  | ioFailure : Status .ioFailure 502
  | internalInconsistency : Status .internalInconsistency 500

theorem status_iff {code : Code} {n : Nat} : Status code n ↔ n = statusOf code := by
  constructor
  · rintro ⟨⟩ <;> rfl
  · rintro rfl
    cases code <;> constructor

/-- A reply reports a failure: its code, its message and its details, under the status for its
code.  Without details it tells of none. -/
structure Reports (reply : Reply) (code : Code) (message : String)
    (details : Option (List (String × Json))) : Prop where
  status : Status code reply.status
  known : reply.status ∈ [400, 403, 404, 409, 501, 502, 500]
  code : reply.ofError? "code" = some (.str code.text)
  message : reply.ofError? "message" = some (.str message)
  details : reply.ofError? "details" = some (match details with
    | some members => .ofMembers members
    | none => .null)

/-- The members of an error are told. -/
theorem ofError?_error {status : Nat} {members : List (String × Json)} {name : String}
    (nodup : (members.map Prod.fst).Nodup) :
    (error status members).ofError? name = OrderedMap.find name members := by
  have found : (Json.ofMembers [("error", Json.ofMembers members)]).get? "error" =
      some (Json.ofMembers members) := by
    rw [Json.get?_ofMembers (by simp)]
    rfl
  simp only [ofError?, error, json, found, Option.bind_some, Json.get?_ofMembers nodup]

theorem reports_ofFailure {f : Failure} {code : Code} {message : String}
    {details : Option (List (String × Json))} (h : f.fault = .gateway code message details) :
    (ofFailure f).Reports code message details := by
  have told : ofFailure f = error (statusOf code) [("code", code.text), ("message", message),
      ("details", detailsOf details)] := by
    rw [ofFailure, h]
  rw [told]
  refine ⟨status_iff.mpr rfl, by cases code <;> simp [statusOf, error, json], ?_, ?_, ?_⟩ <;>
    rw [ofError?_error (by simp)] <;> simp [OrderedMap.find]
  cases details <;> rfl

theorem Reports.not_succeeds {code : Code} {message : String}
    {details : Option (List (String × Json))} (h : reply.Reports code message details) :
    ¬ reply.Succeeds := by
  intro success
  have known := h.known
  have low := success.1
  have high := success.2
  simp only [List.mem_cons, List.not_mem_nil, or_false] at known
  omega

/-- A refusal of an argument is a refusal. -/
theorem refuses_ofFailure {r : Refusal} (h : r.code = .invalidArgument) :
    (ofFailure r.failure).Refuses := by
  have reports := reports_ofFailure (f := r.failure) rfl
  rw [h] at reports
  exact ⟨status_iff.mp reports.status, .inl reports.code⟩

theorem refuses_complaints (list : List Complaint) : (Complaint.reply list).Refuses := by
  refine ⟨rfl, .inr ?_⟩
  rw [Complaint.reply, ofError?_error (by simp)]
  rfl

theorem succeeds_data {status : Nat} (h : status = 200 ∨ status = 201) (document : Json) :
    (data status document).Succeeds := by
  rcases h with rfl | rfl <;> simp [Succeeds, data, json]

theorem HoldsHandle.of_data {status : Nat} (h : (data status document).HoldsHandle value) :
    document.HoldsHandle value := by
  obtain ⟨body, hbody, h⟩ := h
  cases hbody
  obtain ⟨name, j, hmem, hj⟩ := h.of_ofMembers (by simp)
  obtain ⟨rfl, rfl⟩ := Prod.mk.inj (List.mem_singleton.mp hmem)
  rcases hj with ⟨named, -⟩ | inner
  · simp [Json.handleNames] at named
  · exact inner

end Reply

end Http

end InodeGateway
