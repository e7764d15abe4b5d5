import InodeGateway.Instant
import InodeGateway.Journal
import InodeGateway.Journal.ErrorForm
import InodeGateway.Journal.Visit

/-!
# The lines of the journal

How a record is written: as the text of one object with the weight of its level, the time, the name
of the service, the fields and the message.  Records below a threshold are left out.  Owners and
identities among the details of the field `err` are blotted out, whatever they are.

## Main definitions

* `Journal.redact` — a document with the secret details blotted out
* `Journal.lineMembers` — what a line tells
* `Journal.line?` — the line of a record
-/

namespace InodeGateway.Journal

def serviceName : String := "gridvfs"

/-- What every line carries. -/
def base : List (String × Json) := [("service", serviceName)]

/-! ### Secrets -/

/-- The details of the field `err` that are secret. -/
def secretDetails : List String := ["owner", "identity"]

def secretPaths : List String := secretDetails.map fun name => "err.details." ++ name

/-- What stands in the place of a secret. -/
def censor : String := "[redacted]"

/-- The member that does not outlive a search for secrets. -/
def lostMember : String := "__proto__"

/-- The members of an object that is searched for secrets. -/
def searched (members : List (String × Json)) : List (String × Json) :=
  members.filter fun m => m.1 ≠ lostMember

/-- Blots out a secret. -/
def blot (m : String × Json) : String × Json :=
  if m.1 ∈ secretDetails then (m.1, .str censor) else m

/-- Blots out the secret details of an error. -/
def redactDetails (m : String × Json) : String × Json :=
  match m with
  | ("details", .obj details) => ("details", .obj ((searched details).map blot))
  | _ => m

/-- A document with the secret details blotted out. -/
def redact : Json → Json
  | .obj members => .obj ((searched members).map redactDetails)
  | j => j

/-! ### Fields -/

def Field.document : Field → Json
  | .failure f => ofFailure f
  | .value j => j

/-- A field as it stands in a line.  Only the field `err` is looked at for what looks like an error,
and for secrets. -/
def written (field : String × Field) : String × Json :=
  match field with
  | ("err", .failure f) => ("err", redact (ofFailure f))
  | ("err", .value j) => ("err", redact (ofErrorLike j))
  | (name, field) => (name, field.document)

/-- What a line tells in the place of the fields: the request that they describe, or each of
them. -/
def told (fields : Fields) : List (String × Json) :=
  let whole := Json.ofMembers (fields.map fun field => (field.1, field.2.document))
  if isRequest whole then [("req", requestSummary whole)] else fields.map written

/-- The members of a line: later ones of one name count. -/
def lineMembers (time : String) (r : Record) : List (String × Json) :=
  [("level", .num (.ofNat r.level.weight)), ("time", .str time)] ++ base ++
    told r.fields ++ [("msg", .str r.message)]

/-! ### Lines -/

/-- How the value of a member is written. -/
inductive Manner where
  | full
  /-- As part of a text, without marks. -/
  | bare
  /-- As `false`, whatever it is. -/
  | denied
  /-- Not at all, with its name. -/
  | omitted
  deriving DecidableEq, Repr

/-- How the member of a name is written.  Names that every object answers to are not written like
others. -/
def Manner.ofName (name : String) : Manner :=
  match name with
  | "constructor" => .bare
  | "isPrototypeOf" => .denied
  | "__lookupGetter__" | "__lookupSetter__" => .omitted
  | _ => .full

def memberText? (m : String × Json) : Option String :=
  let named (value : String) : Option String := some (Json.quote m.1 ++ ":" ++ value)
  match Manner.ofName m.1 with
  | .full => named m.2.render
  | .bare => named m.2.plain
  | .denied => named (Json.render (.bool false))
  | .omitted => none

def lineText (members : List (String × Json)) : String :=
  "\x7b" ++ ",".intercalate (members.filterMap memberText?) ++ "\x7d"

/-- The line of a record, if its level reaches the threshold. -/
def line? (threshold : Level) (time : String) (r : Record) : Option String :=
  if threshold.weight ≤ r.level.weight then some (lineText (lineMembers time r)) else none

def lines (threshold : Level) (time : String) (rs : List Record) : List String :=
  rs.filterMap (line? threshold time)

end InodeGateway.Journal
