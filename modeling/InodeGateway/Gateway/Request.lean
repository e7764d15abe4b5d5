import InodeGateway.Gateway.Operations

/-!
# Requests and answers

All that clients can ask of a gateway, as data.

## Main definitions

* `Request`, `Answer` — what is asked and what is answered
* `Gateway.perform` — the answer to a request
* `Gateway.afterAll` — the world after requests, one after another
-/

namespace InodeGateway

/-- The operations that no gateway offers, with the handles they are asked for. -/
inductive Unoffered where
  | read (h : Handle)
  | write (h : Handle)
  | link (parent existing : Handle)
  | symlink (parent : Handle)
  | readlink (h : Handle)
  | remove (parent : Handle)
  | move (source target : Handle)
  | setAttributes (h : Handle)
  deriving DecidableEq, Repr

namespace Unoffered

def operation : Unoffered → Operation
  | .read _ => .read
  | .write _ => .write
  | .link _ _ => .link
  | .symlink _ => .symlink
  | .readlink _ => .readlink
  | .remove _ => .remove
  | .move _ _ => .move
  | .setAttributes _ => .setAttributes

def handles : Unoffered → List Handle
  | .read h | .write h | .symlink h | .readlink h | .remove h | .setAttributes h => [h]
  | .link a b | .move a b => [a, b]

end Unoffered

/-- What a client asks. -/
inductive Request where
  | getAttributes (h : Handle)
  | checkAccess (h : Handle) (mask : Num)
  | create (parent : Handle) (name kind : String) (owner : Principal) (mode : Num)
  | list (h : Handle)
  | lookup (parent : Handle) (name : String)
  | parentOf (h : Handle)
  | statistics
  | commit (h : Handle)
  | unoffered (what : Unoffered)
  deriving DecidableEq, Repr

inductive Answer where
  | attributes (a : Attributes)
  | granted (bits : Nat)
  | handle (h : Handle)
  | entries (list : List DirectoryEntry)
  | statistics (s : Statistics)
  | done
  deriving DecidableEq, Repr

namespace Gateway

variable {σ : Type}

def perform (g : Gateway σ) : Request → Act σ Answer
  | .getAttributes h => .attributes <$> g.getAttributes h
  | .checkAccess h mask => .granted <$> g.checkAccess h mask
  | .create parent name kind owner mode => .handle <$> g.create parent name kind owner mode
  | .list h => .entries <$> g.list h
  | .lookup parent name => .handle <$> g.lookup parent name
  | .parentOf h => .handle <$> g.parentOf h
  | .statistics => .statistics <$> g.statistics
  | .commit h => (fun _ => .done) <$> g.commit h
  | .unoffered what => (fun _ => .done) <$> g.decline what.operation what.handles

def after (g : Gateway σ) (w : World σ) (r : Request) : World σ := ((g.perform r).answer w).2

/-- The world after requests, one after another. -/
def afterAll (g : Gateway σ) (w : World σ) (rs : List Request) : World σ := rs.foldl g.after w

end Gateway

end InodeGateway
