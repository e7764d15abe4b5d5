import InodeGateway.Attributes
import InodeGateway.Path.Name
import InodeGateway.Handle

/-!
# Requests for new objects

What a client says about a new object is looked at before anything else happens.

## Main definitions

* `Principal` — on whose behalf an object is made
* `Creation` — an acceptable request for a new object
* `Creation.check` — the request, or what speaks against it first
-/

namespace InodeGateway

/-- On whose behalf an object is made. -/
structure Principal where
  userId : Num
  groupId : Num
  deriving DecidableEq, Repr

def Mode.check (label : ModeLabel) (mode : Num) : Except Refusal Unit :=
  if (mode.toNatUpTo? Mode.greatest).isSome then .ok () else .error (.modeOutOfRange label mode)

/-- Refuses ids that are no natural numbers. -/
def Principal.check (p : Principal) : Except Refusal Unit :=
  if p.userId.isNatural && p.groupId.isNatural then .ok ()
  else .error (.badPrincipal p.userId p.groupId)

/-- An acceptable request for a new object. -/
structure Creation where
  parent : Handle
  name : Name
  kind : Kind
  owner : Principal
  mode : Num
  deriving DecidableEq, Repr

namespace Creation

def checkHandle (h : Handle) : Except Refusal Unit :=
  if h ≤ 0 then .error (.handleNotPositive h) else .ok ()

/-- The kind that a word names. -/
def checkKind (kind : String) : Except Refusal Kind :=
  match Kind.ofText? kind with
  | some k => .ok k
  | none => .error (.unsupportedKind kind)

/-- The request, or the first of these that speaks against it: the handle, the name, the kind, the
owner, the mode. -/
def check (parent : Handle) (name kind : String) (owner : Principal) (mode : Num) :
    Except Refusal Creation := do
  checkHandle parent
  let name ← Name.ofText name
  let kind ← checkKind kind
  owner.check
  Mode.check .mode mode
  return ⟨parent, name, kind, owner, mode⟩

end Creation

end InodeGateway
