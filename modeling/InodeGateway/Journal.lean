import InodeGateway.Failure

/-!
# The journal

What the gateway writes down while it works: records of a level, a message and named fields.

## Main definitions

* `Journal.Level` — the levels, from the most detailed to the gravest
* `Journal.Field` — a document or a failure
* `Journal.Record` — one entry
-/

namespace InodeGateway.Journal

inductive Level where
  | trace
  | debug
  | info
  | warn
  | error
  | fatal
  deriving DecidableEq, Repr, Inhabited

namespace Level

def text : Level → String
  | .trace => "trace"
  | .debug => "debug"
  | .info => "info"
  | .warn => "warn"
  | .error => "error"
  | .fatal => "fatal"

def weight : Level → Nat
  | .trace => 10
  | .debug => 20
  | .info => 30
  | .warn => 40
  | .error => 50
  | .fatal => 60

def all : List Level := [.trace, .debug, .info, .warn, .error, .fatal]

/-- The level that a word names. -/
def ofText? (s : String) : Option Level := all.find? fun l => l.text = s

end Level

/-- What a field of a record holds. -/
inductive Field where
  | value (json : Json)
  | failure (failure : Failure)
  deriving Repr

instance : Coe Json Field := ⟨.value⟩
instance : Coe String Field := ⟨fun s => .value (.str s)⟩
instance : Coe Num Field := ⟨fun x => .value (.num x)⟩
instance : Coe Nat Field := ⟨fun n => .value (.num (.ofNat n))⟩
instance : Coe Failure Field := ⟨.failure⟩

/-- The named fields of a record. -/
abbrev Fields := List (String × Field)

structure Record where
  level : Level
  message : String
  fields : Fields
  deriving Repr

end InodeGateway.Journal
