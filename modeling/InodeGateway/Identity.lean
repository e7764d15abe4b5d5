import InodeGateway.Backend
import InodeGateway.Num
import InodeGateway.Text.Blank
import InodeGateway.Text.Cut

/-!
# Identities

A backend names an owner `name#zone`; clients see a number.  A directory of identities tells which
text stands for an owner, and that text, read as a decimal number, is the user id.

## Main definitions

* `Identity.owner` — the text for an owner
* `Identity.Directory` — which text stands for an owner
* `Identity.Registry` — where that is asked for; what is asked may change with each question
* `Identity.userId` — the user id that a text spells
* `Identity.readMap` — the pairs of a written identity map
-/

namespace InodeGateway.Identity

def owner (name zone : String) : String := name ++ "#" ++ zone

/-- A directory of identities: the text that stands for an owner, if there is one.  Asking it may
fail. -/
structure Directory where
  kind : String
  /-- The text that stands for an owner. -/
  resolve : String → Except Failure (Option String)

/-- Where the text that stands for an owner is asked for.  A question may fail, and it may change
the state of what is asked; nothing is assumed about the answers. -/
structure Registry (σ : Type) where
  /-- Asks for the text that stands for an owner. -/
  resolve : String → Call σ (Option String)

/-- A directory gives an owner the same answer every time and is not changed by it. -/
def Directory.registry {σ : Type} (d : Directory) : Registry σ :=
  ⟨fun owner => .read fun _ => d.resolve owner⟩

instance {σ : Type} : Coe Directory (Registry σ) := ⟨Directory.registry⟩

/-- The texts of a fixed map. -/
def static (entries : OrderedMap String String) : Directory :=
  ⟨"static", fun owner => .ok (entries.get? owner)⟩

/-- The name part of an owner: what stands before the last zone mark, or all of it. -/
def namePart (owner : String) : String :=
  match Text.cutLast '#' owner.toList with
  | some (name, _) => String.ofList name
  | none => owner

/-- The name of an owner is the text that stands for it. -/
def passthrough : Directory :=
  ⟨"passthrough", fun owner =>
    let name := namePart owner
    .ok (if name.isEmpty then none else some name)⟩

/-- The greatest user id: below it, whole numbers of double precision have no gaps. -/
def greatestUserId : Nat := 9007199254740991

/-- The user id that a text spells: decimal digits between blanks, of a value that a number of
double precision keeps exactly. -/
def userId (owner text : String) : Except Refusal Nat :=
  let cs := Text.trimList text.toList
  if cs = [] ∨ ¬ cs.all Char.isDigit then .error (.malformedIdentity owner text)
  else
    match (Num.ofNat (Nat.ofDigitChars 10 cs 0)).toNatUpTo? greatestUserId with
    | some id => .ok id
    | none => .error (.malformedIdentity owner text)

/-- A text that is no user id is malformed, whatever is wrong with it. -/
theorem userId_eq_error {owner text : String} {r : Refusal} (h : userId owner text = .error r) :
    r = .malformedIdentity owner text := by
  rw [userId] at h
  split at h
  · exact (Except.error.inj h).symm
  · split at h
    · cases h
    · exact (Except.error.inj h).symm

/-- The name that a written map cannot hold. -/
def lostName : String := "__proto__"

/-- The pair that one trimmed piece of a written map spells.  The last equals sign divides it, and
something must stand on both sides. -/
def readEntry? (piece : List Char) : Option (String × String) :=
  match Text.cutLast '=' piece with
  | some (left, right) =>
    if left = [] ∨ right = [] then none
    else some (String.ofList (Text.trimList left), String.ofList (Text.trimList right))
  | none => none

/-- The failure that reports a piece which is no pair. -/
def invalidEntry (piece : List Char) : Failure :=
  ⟨.exception "Error" ("Invalid identity map entry: " ++ String.ofList piece), []⟩

/-- Adds the pairs of trimmed pieces one after another; blank pieces do not count. -/
def readPieces (m : OrderedMap String String) :
    List (List Char) → Except Failure (OrderedMap String String)
  | [] => .ok m
  | piece :: rest =>
    if piece = [] then readPieces m rest
    else
      match readEntry? piece with
      | none => .error (invalidEntry piece)
      | some (name, id) =>
        readPieces (if name = lostName then m else m.insert name id) rest

/-- The pairs of a written identity map: pieces divided by commas, each `owner=id`.  A later pair of
an owner replaces the earlier one. -/
def readMap (text : String) : Except Failure (OrderedMap String String) :=
  readPieces {} ((text.toList.splitOn ',').map Text.trimList)

end InodeGateway.Identity
