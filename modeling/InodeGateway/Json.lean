import InodeGateway.Num
import InodeGateway.OrderedMap

/-!
# Documents

The values of the data format in which requests, answers, error details and log records are
written.  An object keeps its members in the order of the format: names that are plain indices come
first, in ascending order, then the other names as they were first written.

## Main definitions

* `Json` — a document
* `Json.indexOf?` — the index that a member name spells
* `Json.ofMembers` — the object of members written one after another
* `Json.isTelling` — whether a document says something
* `Json.kindName` — the name of a document's kind
-/

namespace InodeGateway

inductive Json where
  | null
  | bool (value : Bool)
  | num (value : Num)
  | str (text : String)
  | arr (items : List Json)
  | obj (members : List (String × Json))
  deriving Repr, Inhabited

namespace Json

instance : Coe Bool Json := ⟨.bool⟩
instance : Coe Num Json := ⟨.num⟩
instance : Coe String Json := ⟨.str⟩
instance : Coe Nat Json := ⟨fun n => .num (.ofNat n)⟩

/-- The greatest index that a member name can spell. -/
def lastIndex : Nat := 4294967294

/-- The index that a member name spells: decimal digits without leading zeros, within range. -/
def indexOf? (name : String) : Option Nat :=
  let cs := name.toList
  if cs.isEmpty || !cs.all Char.isDigit then none
  else
    let n := Nat.ofDigitChars 10 cs 0
    if n ≤ lastIndex ∧ Nat.toDigits 10 n = cs then some n else none

/-- Members in the order of the format: indices ascending, then the other names as they stand. -/
def memberOrder {α : Type} (members : List (String × α)) : List (String × α) :=
  let indexed := members.filterMap fun m => (indexOf? m.1).map fun n => (n, m)
  let named := members.filter fun m => (indexOf? m.1).isNone
  (indexed.mergeSort fun a b => a.1 ≤ b.1).map Prod.snd ++ named

/-- The object of members written one after another: the last value of a name counts. -/
def ofMembers (members : List (String × Json)) : Json :=
  .obj (memberOrder (OrderedMap.ofList members).entries)

/-- The member of an object under a name. -/
def get? (name : String) : Json → Option Json
  | .obj members => OrderedMap.find name members
  | _ => none

/-- Whether a document says something: `null`, `false`, zero and the empty text do not. -/
def isTelling : Json → Bool
  | .null => false
  | .bool b => b
  | .num x => x ≠ .nan ∧ x ≠ .fin 0
  | .str s => !s.isEmpty
  | .arr _ | .obj _ => true

def kindName : Json → String
  | .null => "null"
  | .bool _ => "boolean"
  | .num .nan => "nan"
  | .num _ => "number"
  | .str _ => "string"
  | .arr _ => "array"
  | .obj _ => "object"

end Json

end InodeGateway
