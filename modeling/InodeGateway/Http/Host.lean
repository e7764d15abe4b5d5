import InodeGateway.Http.Label
import InodeGateway.Http.Percent
import InodeGateway.Num.Reading
import InodeGateway.Text.Cut

/-!
# Hosts

A reference can name the host that it leads to, with a user before it and a port after it.  Nothing
is done with that name here, but a reference whose host is no host leads nowhere.

## Main definitions

* `Host.isNumbers` — addresses of four numbers
* `Host.isGroups` — addresses of eight groups
* `Host.isDomain` — names and addresses of the sites of the web
* `Host.isAuthority` — hosts with user and port
-/

namespace InodeGateway.Http.Host

def isForbidden (c : Char) : Bool :=
  c ∈ ['\x00', '\t', '\n', '\r', ' ', '#', '/', ':', '<', '>', '?', '@', '[', '\\', ']', '^', '|']

/-- The characters that no name of a site holds. -/
def isForbiddenInDomain (c : Char) : Bool :=
  isForbidden c || c.toNat < 0x20 || c = '%' || c = '\x7f'

/-! ### Addresses of four numbers -/

/-- The number that a part of an address spells: of base 16 after `0x`, of base 8 after `0`, and of
base 10 otherwise. -/
def number? (cs : List Char) : Option Nat :=
  match cs with
  | '0' :: 'x' :: rest | '0' :: 'X' :: rest =>
    if rest = [] then some 0 else Num.baseValue? 16 rest
  | '0' :: c :: rest => Num.baseValue? 8 (c :: rest)
  | [] => none
  | cs => Num.baseValue? 10 cs

/-- The parts of a name; a point at its end does not count. -/
def parts (cs : List Char) : List (List Char) :=
  match (cs.splitOn '.').reverse with
  | [] :: part :: rest => (part :: rest).reverse
  | list => list.reverse

/-- Whether the last part of a name is a number, so that the whole has to be an address. -/
def endsInNumber (cs : List Char) : Bool :=
  match (parts cs).getLast? with
  | some part => (!part.isEmpty && part.all Char.isDigit) || (number? part).isSome
  | none => false

/-- Whether a name is an address of up to four numbers, of which the last one fills the bytes that
the others leave. -/
def isNumbers (cs : List Char) : Bool :=
  match (parts cs).mapM number? with
  | none => false
  | some numbers =>
    numbers.length ≤ 4 && numbers.dropLast.all (· ≤ 255) &&
      match numbers.getLast? with
      | some last => last < Nat.pow 256 (5 - numbers.length)
      | none => false

/-! ### Addresses of eight groups -/

/-- Whether characters are a group of up to four digits of base 16. -/
def isGroup (cs : List Char) : Bool :=
  !cs.isEmpty && cs.length ≤ 4 && (Num.baseValue? 16 cs).isSome

/-- Whether characters are a number of one byte, without needless zeros. -/
def isByte (cs : List Char) : Bool :=
  !cs.isEmpty && cs.all Char.isDigit && (cs.length = 1 || cs.head? ≠ some '0') &&
    Nat.ofDigitChars 10 cs 0 ≤ 255

/-- Whether characters are four bytes with points between them. -/
def isBytes (cs : List Char) : Bool :=
  let bytes := cs.splitOn '.'
  bytes.length = 4 && bytes.all isByte

/-- How many groups stand between colons, if all are groups.  With `ends`, four bytes may stand for
the last two groups. -/
def groupCount? (ends : Bool) (cs : List Char) : Option Nat :=
  if cs.isEmpty then some 0
  else
    let groups := cs.splitOn ':'
    match groups.getLast? with
    | some last =>
      if groups.all isGroup then some groups.length
      else if ends && groups.dropLast.all isGroup && isBytes last then some (groups.length + 1)
      else none
    | none => none

/-- The characters before and after the first two colons in a row. -/
def cutGap? : List Char → Option (List Char × List Char)
  | [] => none
  | ':' :: ':' :: rest => some ([], rest)
  | c :: rest => (cutGap? rest).map fun (before, after) => (c :: before, after)

/-- Whether characters are an address of eight groups.  Two colons in a row stand for the groups
that are missing, at least one. -/
def isGroups (cs : List Char) : Bool :=
  match cutGap? cs with
  | none => groupCount? true cs = some 8
  | some (before, after) =>
    match groupCount? false before, groupCount? true after with
    | some m, some n => m + n ≤ 7
    | _, _ => false

/-- Whether characters after an opening bracket are an address of eight groups and a closing
bracket. -/
def isBracketed (cs : List Char) : Bool :=
  match cs.reverse with
  | ']' :: inner => isGroups inner.reverse
  | _ => false

/-! ### Names -/

/-- Whether characters name a site of the web, once what is encoded is decoded. -/
def isDomain (cs : List Char) : Bool :=
  match cs with
  | '[' :: rest => isBracketed rest
  | cs =>
    match (Percent.decode? cs).bind fun text => Label.fold? (text.toList.map Char.toNat) with
    | none => false
    | some folded =>
      let name := folded.map Char.ofNat
      !name.isEmpty && name.all (fun c => !isForbiddenInDomain c) &&
        (folded.splitOn '.'.toNat).all Label.isValid && (!endsInNumber name || isNumbers name)

/-- Whether characters name a host that is no site of the web; nothing is decoded. -/
def isOpaque (cs : List Char) : Bool :=
  match cs with
  | '[' :: rest => isBracketed rest
  | cs => cs.all fun c => !isForbidden c

/-! ### Users and ports -/

def portLimit : Nat := 65535

/-- Whether characters are a port; none need be given. -/
def isPort (cs : List Char) : Bool := cs.all Char.isDigit && Nat.ofDigitChars 10 cs 0 ≤ portLimit

/-- The host, and the port after the first colon outside of brackets. -/
def cutPort (bracketed : Bool) : List Char → List Char × Option (List Char)
  | [] => ([], none)
  | c :: rest =>
    if c = ':' ∧ bracketed = false then ([], some rest)
    else
      let bracketed := if c = '[' then true else if c = ']' then false else bracketed
      let (host, port) := cutPort bracketed rest
      (c :: host, port)

/-- Whether characters are a host, perhaps with a user before it and a port after it.  Without
`named`, the whole may be empty. -/
def isAuthority (named : Bool) (isHost : List Char → Bool) (cs : List Char) : Bool :=
  let rest :=
    match Text.cutLast '@' cs with
    | some (_, rest) => rest
    | none => cs
  if cs.isEmpty then !named
  else
    match cutPort false rest with
    | (host, port) => !host.isEmpty && isHost host && isPort (port.getD [])

end InodeGateway.Http.Host
