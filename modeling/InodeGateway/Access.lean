import InodeGateway.Attributes

/-!
# Access

Which of the rights that a client asks for the backend grants.  The backend is asked about
execution, then writing, then reading; where writing is granted, so is reading.

## Main definitions

* `Access.probe` — the granted bits of a mask
-/

namespace InodeGateway.Access

variable {σ : Type}

/-- Asks the backend about a right, if the mask has its bit. -/
def ask (b : Backend σ) (s : Session) (path : String) (mask : Num) (right : Right) : Act σ Bool :=
  if Mode.asks mask right then Act.call (b.permits s right path) else pure false

/-- The message of the record that access was looked at. -/
def probedMessage : String := "access probed"

/-- The bits of the rights that are granted. -/
def granted (execute write read : Bool) : Nat :=
  (if execute then Mode.execute else 0) ||| (if write then Mode.write else 0) |||
    (if read then Mode.read else 0)

/-- The granted bits of a mask.  Writing that was asked for and is granted brings reading along,
whatever the backend would say about it. -/
def probe (b : Backend σ) (s : Session) (path : String) (mask : Num) : Act σ Nat := do
  let execute ← ask b s path mask .execute
  let write ← ask b s path mask .write
  let read ← if write then pure (Mode.asks mask .read) else ask b s path mask .read
  let bits := granted execute write read
  Act.note .debug probedMessage [("path", path), ("requested", mask), ("granted", bits)]
  return bits

end InodeGateway.Access
