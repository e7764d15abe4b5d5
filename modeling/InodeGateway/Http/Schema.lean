import InodeGateway.Gateway.Creation
import InodeGateway.Http.Reply
import InodeGateway.Settings

/-!
# The shape of requests

What a client sends is looked at as a whole: all complaints about it are collected before it is
refused.

## Main definitions

* `Complaint` — what is wrong, and with which member
* `Checked` — a value, or the complaints about what was sent
* `Checked.text`, `Checked.natural`, … — what members have to be
* `AccessForm`, `CreationForm` — the shapes of the two documents that can be sent
-/

namespace InodeGateway.Http

/-- What is wrong; without a member, the whole. -/
structure Complaint where
  member : Option String
  message : String
  deriving DecidableEq, Repr

/-- A value, or the complaints about what was sent. -/
abbrev Checked (α : Type) := Except (List Complaint) α

namespace Checked

variable {α β : Type}

/-- Two values, or all complaints about them. -/
def both (a : Checked α) (b : Checked β) : Checked (α × β) :=
  match a, b with
  | .ok x, .ok y => .ok (x, y)
  | .ok _, .error f => .error f
  | .error e, .ok _ => .error e
  | .error e, .error f => .error (e ++ f)

def complain (member message : String) : Checked α := .error [⟨some member, message⟩]

/-- The message about a member that is missing. -/
def required : String := "Required"

/-- The message about a document of the wrong kind. -/
def wrongKind (expected : String) (found : Json) : String :=
  "Expected " ++ expected ++ ", received " ++ found.kindName

/-- A text of at least one character. -/
def filled (member text : String) : Checked String :=
  if text.isEmpty then complain member Settings.tooShort else .ok text

/-- A member that is a text of at least one character. -/
def text (member : String) : Option Json → Checked String
  | none => complain member required
  | some (.str s) => filled member s
  | some j => complain member (wrongKind "string" j)

/-- A member that may be missing. -/
def optional (check : Option Json → Checked α) : Option Json → Checked (Option α)
  | none => .ok none
  | j => some <$> check j

/-- A member that stands for a value when it is missing. -/
def orElse (check : Option Json → Checked α) (value : α) : Option Json → Checked α
  | none => .ok value
  | j => check j

/-- The complaints about a number that has to be whole and not below zero. -/
def naturalComplaints (member : String) (x : Num) : List Complaint :=
  (if x.isInteger then [] else [⟨some member, Settings.notWhole⟩]) ++
    (if x.isNegative then [⟨some member, Settings.belowZero⟩] else [])

/-- A member that is a number, whole and not below zero. -/
def natural (member : String) : Option Json → Checked Num
  | none => complain member required
  | some (.num x) =>
    match naturalComplaints member x with
    | [] => .ok x
    | list => .error list
  | some j => complain member (wrongKind "number" j)

/-- The kinds of objects as a complaint names them. -/
def kindNames : String := "'file' | 'directory'"

def kind (member : String) : Option Json → Checked Kind
  | none => complain member required
  | some (.str s) =>
    match Kind.ofText? s with
    | some k => .ok k
    | none =>
      complain member
        ("Invalid enum value. Expected " ++ kindNames ++ ", received '" ++ s ++ "'")
  | some j => complain member (wrongKind kindNames j)

def members : Json → Checked (List (String × Json))
  | .obj list => .ok list
  | j => .error [⟨none, wrongKind "object" j⟩]

/-- The principal that a member describes; complaints about its parts are about the member. -/
def principal (member : String) : Option Json → Checked Principal
  | none => complain member required
  | some (.obj list) => do
    let uid := natural member (OrderedMap.find "uid" list)
    let gid := natural member (OrderedMap.find "gid" list)
    let name := optional (text member) (OrderedMap.find "name" list)
    let ((uid, gid), _) ← both (both uid gid) name
    return ⟨uid, gid⟩
  | some j => complain member (wrongKind "object" j)

end Checked

/-- What is sent to ask for access. -/
structure AccessForm where
  mask : Num
  deriving DecidableEq, Repr

/-- What is sent to make an object. -/
structure CreationForm where
  name : String
  kind : Kind
  mode : Num
  owner : Principal
  deriving DecidableEq, Repr

/-- The form that a document fills in.  No document counts as an empty one. -/
def AccessForm.check (document : Json) : Checked AccessForm := do
  let list ← Checked.members document
  return ⟨← Checked.natural "mask" (OrderedMap.find "mask" list)⟩

/-- The mode of an object for which none is given. -/
def CreationForm.usualMode : Num := Num.ofNat 0o644

/-- The owner of an object for which none is given. -/
def CreationForm.usualOwner : Principal := ⟨0, 0⟩

def CreationForm.check (document : Json) : Checked CreationForm := do
  let list ← Checked.members document
  let name := Checked.text "name" (OrderedMap.find "name" list)
  let kind := Checked.kind "kind" (OrderedMap.find "kind" list)
  let mode :=
    Checked.orElse (Checked.natural "mode") usualMode (OrderedMap.find "mode" list)
  let owner :=
    Checked.orElse (Checked.principal "owner") usualOwner (OrderedMap.find "owner" list)
  let (((name, kind), mode), owner) ← ((name.both kind).both mode).both owner
  return ⟨name, kind, mode, owner⟩

namespace Complaint

/-- The messages about the members, under their names, in the order in which they were made. -/
def byMember (list : List Complaint) : OrderedMap String (List Json) :=
  list.foldl (fun m c =>
    match c.member with
    | none => m
    | some name => m.insert name ((m.get? name).getD [] ++ [.str c.message])) {}

/-- The messages about the whole. -/
def general (list : List Complaint) : List Json :=
  list.filterMap fun c => if c.member.isNone then some (.str c.message) else none

/-- The reply to a request about which there are complaints. -/
def reply (list : List Complaint) : Reply :=
  .error 400 [("code", "INVALID_REQUEST"), ("message", "Request validation failed"),
    ("details", Json.ofMembers [
      ("formErrors", .arr (general list)),
      ("fieldErrors", .ofMembers ((byMember list).entries.map fun e => (e.1, .arr e.2)))])]

end Complaint

end InodeGateway.Http
