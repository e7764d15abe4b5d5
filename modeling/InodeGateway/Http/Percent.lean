/-!
# Percent encoding

Addresses are written in printable characters; every other byte is written as a percent sign and two
hexadecimal digits.

## Main definitions

* `Percent.encode` — characters with those of a set encoded
* `Percent.decode?` — the characters that encoded ones stand for
* `Percent.reserved?` — escapes of the characters that mean something in an address
-/

namespace InodeGateway.Percent

def bytes (c : Char) : List UInt8 := (String.singleton c).toUTF8.toList

/-- The digit of a number below sixteen. -/
def digit (n : Nat) : Char := (Nat.digitChar n).toUpper

/-- The encoded form of a byte. -/
def escape (b : UInt8) : List Char := ['%', digit (b.toNat / 16), digit (b.toNat % 16)]

def encode (reserved : Char → Bool) (cs : List Char) : List Char :=
  cs.flatMap fun c => if reserved c then (bytes c).flatMap escape else [c]

def digitValue? (c : Char) : Option Nat :=
  if '0' ≤ c ∧ c ≤ '9' then some (c.toNat - '0'.toNat)
  else if 'a' ≤ c ∧ c ≤ 'f' then some (c.toNat - 'a'.toNat + 10)
  else if 'A' ≤ c ∧ c ≤ 'F' then some (c.toNat - 'A'.toNat + 10)
  else none

/-- The bytes that encoded characters stand for; every percent sign needs two digits. -/
def decodeBytes? : List Char → Option (List UInt8)
  | [] => some []
  | '%' :: high :: low :: rest => do
    let high ← digitValue? high
    let low ← digitValue? low
    return UInt8.ofNat (16 * high + low) :: (← decodeBytes? rest)
  | '%' :: _ => none
  | c :: rest => do return bytes c ++ (← decodeBytes? rest)

/-- The characters that encoded ones stand for, if they are some. -/
def decode? (cs : List Char) : Option String := do
  String.fromUTF8? (ByteArray.mk (← decodeBytes? cs).toArray)

/-- The characters that mean something in an address, with the percent sign. -/
def reservedChars : List Char :=
  ['#', '$', '%', '&', '+', ',', '/', ':', ';', '=', '?', '@']

/-- The character of `reservedChars` that the two digits after a percent sign stand for. -/
def reserved? (cs : List Char) : Option Char :=
  match cs with
  | high :: low :: _ => do
    let code := 16 * (← digitValue? high) + (← digitValue? low)
    reservedChars.find? fun c => c.toNat = code
  | _ => none

/-- How many bytes a character takes that begins with a byte. -/
def width (first : Nat) : Nat :=
  if first < 0x80 then 1 else if first < 0xE0 then 2 else if first < 0xF0 then 3 else 4

/-- The encoded character at the front of encoded ones, and what follows. -/
def takeCharacter? (cs : List Char) : Option (Char × List Char) := do
  let first ← (← decodeBytes? (cs.take 3)).head?
  let length := 3 * width first.toNat
  let text ← decode? (cs.take length)
  return (← text.toList.head?, cs.drop length)

end InodeGateway.Percent
