import InodeGateway.Journal.Line
import InodeGateway.Proofs.Json
import Mathlib.Data.List.Forall2

/-!
# What the lines of the journal keep to themselves

An identity that is no user id stands in the details of the failure that it causes, and so in the
record of that failure.  It is blotted out where the record is written: two records that differ in
such an identity have the same line.

## Main definitions

* `Failure.Veiled`, `Journal.Record.Veiled` — failures and records that differ in such an identity
  at most
* `Journal.emitted` — the lines that a logger emits of records, each at its own time

## Main statements

* `Journal.redact_ofFailure` — what is written of the field `err` tells no such identity
* `Journal.told_veiled` — and neither does what the line tells in the place of the fields
* `Journal.emitted_veiled` — so that such records are emitted alike
-/

namespace InodeGateway

/-- The failures are the same, or they tell of two identities of one owner that are no user ids. -/
inductive Failure.Veiled : Failure → Failure → Prop
  | same (f : Failure) : Veiled f f
  | identity (owner id id' : String) :
      Veiled (Refusal.malformedIdentity owner id).failure
        (Refusal.malformedIdentity owner id').failure

/-- The records are the same, but for the failure that they begin with. -/
inductive Journal.Record.Veiled : Record → Record → Prop
  | same (r : Record) : Veiled r r
  | failed {f f' : Failure} (h : f.Veiled f') (level : Level) (message : String) (fields : Fields) :
      Veiled ⟨level, message, ("err", f) :: fields⟩ ⟨level, message, ("err", f') :: fields⟩

namespace Journal

variable {f f' : Failure} {r r' : Record} {j j' : Json}

/-! ### The field `err` -/

/-- What is written of an identity that is no user id. -/
def veiledForm : List (String × Json) :=
  [("type", "VfsError"), ("message", "Owner identity is not a decimal number"),
    ("name", "VfsError"), ("code", "IO_FAILURE"),
    ("details", .obj [("owner", censor), ("identity", censor)])]

theorem redact_malformedIdentity (owner id : String) :
    redact (ofFailure (Refusal.malformedIdentity owner id).failure) = .obj veiledForm := by
  have secrets : Json.ofMembers [("owner", .str owner), ("identity", .str id)] =
      .obj [("owner", .str owner), ("identity", .str id)] :=
    Json.ofMembers_of_named (by simp) (by simp [Json.indexOf?])
  -- The details have no message, so that they do not look like an error.
  have details : ofErrorLike (.obj [("owner", .str owner), ("identity", .str id)]) =
      .obj [("owner", .str owner), ("identity", .str id)] := by
    simp [ofErrorLike, errorChain, errorMessage?, Json.get?, OrderedMap.find]
  have form (type message name code details : Json) : Json.ofMembers
      [("type", type), ("message", message), ("name", name), ("code", code),
        ("details", details)] =
      .obj [("type", type), ("message", message), ("name", name), ("code", code),
        ("details", details)] :=
    Json.ofMembers_of_named (by simp) (by simp [Json.indexOf?])
  simp only [ofFailure, Refusal.failure, Refusal.details, ownMembers, Option.map_some,
    Option.toList_some, List.cons_append, List.nil_append, secrets, details, form]
  rfl

/-- What is written of a failure tells no identity that is no user id. -/
theorem redact_ofFailure (h : f.Veiled f') : redact (ofFailure f) = redact (ofFailure f') := by
  cases h with
  | same => rfl
  | identity owner id id' => rw [redact_malformedIdentity, redact_malformedIdentity]

/-! ### Requests -/

/-- The documents have the same members, but for those named `err`. -/
def AlikeBesideErr (j j' : Json) : Prop := ∀ name, name ≠ "err" → j.get? name = j'.get? name

namespace AlikeBesideErr

variable (h : AlikeBesideErr j j')
include h

theorem telling? {name : String} (hname : name ≠ "err") :
    telling? j name = Journal.telling? j' name := by
  unfold Journal.telling?
  rw [h name hname]

theorem isRequest : isRequest j = Journal.isRequest j' := by
  simp [Journal.isRequest, requestMarks, h.telling?]

theorem requestedUrl? : requestedUrl? j = Journal.requestedUrl? j' := by
  simp [Journal.requestedUrl?, h.telling?, h "path"]

theorem requestSummary : requestSummary j = Journal.requestSummary j' := by
  simp [Journal.requestSummary, h.telling?, h.requestedUrl?, h "socket", h "method", h "headers"]

end AlikeBesideErr

/-- Whatever stands under `err`, a request is known and told by other members. -/
theorem alikeBesideErr_cons (v v' : Json) (members : List (String × Json)) :
    AlikeBesideErr (.ofMembers (("err", v) :: members)) (.ofMembers (("err", v') :: members)) :=
  fun name hname => by
    rw [Json.get?_ofMembers_last, Json.get?_ofMembers_last,
      OrderedMap.get?_ofList_cons hname.symm v v' members]

/-! ### Lines -/

/-- What a line tells in the place of the fields tells no identity that is no user id. -/
theorem told_veiled (h : f.Veiled f') (fields : Fields) :
    told (("err", f) :: fields) = told (("err", f') :: fields) := by
  have alike := alikeBesideErr_cons (Field.document f) (Field.document f')
    (fields.map fun field => (field.1, field.2.document))
  have written : written ("err", f) = written ("err", f') :=
    congrArg (Prod.mk "err") (redact_ofFailure h)
  simp only [told, List.map_cons, alike.isRequest, alike.requestSummary, written]

/-- The members of a line that a logger with labels of its own writes. -/
def labelledMembers (labels : List (String × String)) (time : String) (r : Record) :
    List (String × Json) :=
  [("level", .num (.ofNat r.level.weight)), ("time", .str time)] ++ base ++
    labels.map (fun l => (l.1, .str l.2)) ++ told r.fields ++ [("msg", .str r.message)]

/-- The line of a record that a logger with labels of its own writes, if its level reaches the
threshold. -/
def labelledLine? (labels : List (String × String)) (threshold : Level) (time : String)
    (r : Record) : Option String :=
  if threshold.weight ≤ r.level.weight then some (lineText (labelledMembers labels time r))
  else none

/-- The lines that a logger emits of records.  The clock tells when each record was made. -/
def emitted (labels : List (String × String)) (threshold : Level) (clock : Nat → String)
    (rs : List Record) : List String :=
  rs.zipIdx.filterMap fun (r, n) => labelledLine? labels threshold (clock n) r

theorem labelledLine?_veiled (h : r.Veiled r') (labels : List (String × String))
    (threshold : Level) (time : String) :
    labelledLine? labels threshold time r = labelledLine? labels threshold time r' := by
  cases h with
  | same => rfl
  | failed h level message fields =>
    unfold labelledLine? labelledMembers
    rw [told_veiled h]

/-- Records that differ in identities that are no user ids are emitted alike. -/
theorem emitted_veiled {rs rs' : List Record} (h : List.Forall₂ Record.Veiled rs rs')
    (labels : List (String × String)) (threshold : Level) (clock : Nat → String) :
    emitted labels threshold clock rs = emitted labels threshold clock rs' := by
  have from_any : ∀ n, (rs.zipIdx n).filterMap (fun (r, n) =>
      labelledLine? labels threshold (clock n) r) = (rs'.zipIdx n).filterMap fun (r, n) =>
        labelledLine? labels threshold (clock n) r := by
    induction h with
    | nil => exact fun _ => rfl
    | cons hr _ ih =>
      intro n
      simp only [List.zipIdx_cons, List.filterMap_cons, labelledLine?_veiled hr, ih]
  exact from_any 0

end Journal

end InodeGateway
