import InodeGateway.Refusal
import InodeGateway.Text.Blank

/-!
# Handles

A handle is the number by which a client names an object.  Clients may pass any integer; those
that stand for objects are positive, and those that clients can write down fit 64 bits.

## Main definitions

* `Handle` — an integer that may stand for an object
* `Handle.ofText` — the handle that a client wrote in decimal digits
* `Handle.toWire`, `Handle.ofWire` — the form of eight bytes, most significant first
-/

namespace InodeGateway

/-- The number by which a client names an object. -/
abbrev Handle := Int

namespace Handle

def root : Handle := 1

/-- The greatest handle that fits 64 bits. -/
def greatest : Handle := 18446744073709551615

def wireLength : Nat := 8

/-- The decimal text of a handle. -/
def toText (h : Handle) : String := toString h

/-- The handle that a text spells: decimal digits between blanks, of a value that fits the wire
form. -/
def ofText (text : String) : Except Refusal Handle :=
  let cs := Text.trimList text.toList
  if cs = [] ∨ ¬ cs.all Char.isDigit then .error (.handleNotDecimal text)
  else
    let value := Nat.ofDigitChars 10 cs 0
    if value = 0 ∨ greatest < value then .error (.handleOutOfRange text) else .ok value

/-- The last `count` bytes of a number, most significant first. -/
def bytes : (count : Nat) → Nat → List UInt8
  | 0, _ => []
  | count + 1, n => bytes count (n / 256) ++ [UInt8.ofNat (n % 256)]

/-- The value of bytes, most significant first. -/
def value (bytes : List UInt8) : Nat := bytes.foldl (fun n b => 256 * n + b.toNat) 0

def toWire (h : Handle) : Except Refusal (List UInt8) :=
  if h ≤ 0 ∨ greatest < h then .error (.handleOutOfRange (toText h))
  else .ok (bytes wireLength h.toNat)

def ofWire (wire : List UInt8) : Except Refusal Handle :=
  if wire.length ≠ wireLength then .error (.wireLength wire.length)
  else if value wire = 0 then .error .wireZero
  else .ok (value wire)

end Handle

end InodeGateway
