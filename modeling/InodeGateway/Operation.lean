import InodeGateway.Failure

/-!
# Operations and outcomes

The names of the operations that an observer counts, and how they end.

## Main definitions

* `Operation` — what a client may ask for
* `Outcome` — success, or the class of the failure
-/

namespace InodeGateway

/-- What a client may ask for. -/
inductive Operation where
  | getAttributes
  | checkAccess
  | create
  | list
  | lookup
  | parentOf
  | statistics
  | commit
  | read
  | write
  | link
  | symlink
  | readlink
  | remove
  | move
  | setAttributes
  deriving DecidableEq, Repr

/-- The word under which an operation is counted and logged. -/
def Operation.text : Operation → String
  | .getAttributes => "getattr"
  | .checkAccess => "access"
  | .create => "create"
  | .list => "list"
  | .lookup => "lookup"
  | .parentOf => "parentOf"
  | .statistics => "fsstat"
  | .commit => "commit"
  | .read => "read"
  | .write => "write"
  | .link => "link"
  | .symlink => "symlink"
  | .readlink => "readlink"
  | .remove => "remove"
  | .move => "move"
  | .setAttributes => "setattr"

inductive Outcome where
  | ok
  | failed (code : Code)
  deriving DecidableEq, Repr

def Outcome.text : Outcome → String
  | .ok => "ok"
  | .failed code => code.text

end InodeGateway
