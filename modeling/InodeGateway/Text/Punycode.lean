/-!
# Names in plain letters

Names of hosts are written in plain letters.  One in other letters is written as its plain letters,
a hyphen, and digits of base 36 that say which characters to insert where.

## Main definitions

* `Punycode.decode?` — the code points that plain letters stand for
-/

namespace InodeGateway.Punycode

/-- The value of a digit of base 36. -/
def digitValue? (c : Char) : Option Nat :=
  if 'a' ≤ c ∧ c ≤ 'z' then some (c.toNat - 'a'.toNat)
  else if c.isDigit then some (c.toNat - '0'.toNat + 26)
  else none

/-- The value from which on a digit at a position does not end its number. -/
def threshold (position bias : Nat) : Nat := min (max (position - bias) 1) 26

/-- The part of an adapted distance that is left by repeated division, and what the divisions
add. -/
def reduce (distance added : Nat) : Nat × Nat :=
  if 455 < distance then reduce (distance / 35) (added + 36) else (distance, added)
termination_by distance
decreasing_by omega

/-- The bias after a distance was read, when there are so many characters. -/
def adapt (distance count : Nat) (isFirst : Bool) : Nat :=
  let halved := distance / if isFirst then 700 else 2
  let (rest, added) := reduce (halved + halved / count) 0
  added + 36 * rest / (rest + 38)

/-- A number of several digits at the front of a text, and the rest. -/
def takeNumber? (bias position weight value : Nat) : List Char → Option (Nat × List Char)
  | [] => none
  | c :: rest =>
    match digitValue? c with
    | none => none
    | some digit =>
      let value := value + digit * weight
      let limit := threshold position bias
      if digit < limit then some (value, rest)
      else takeNumber? bias (position + 36) (weight * (36 - limit)) value rest

/-- The greatest code point. -/
def greatest : Nat := 0x10FFFF

/-- The code points after all insertions that the digits tell.  Each takes at least one digit, so
their number is enough fuel. -/
def insertAll? : (fuel : Nat) → (points : List Nat) → (last place bias : Nat) → List Char →
    Option (List Nat)
  | _, points, _, _, _, [] => some points
  | 0, _, _, _, _, _ => none
  | fuel + 1, points, last, place, bias, cs =>
    match takeNumber? bias 36 1 0 cs with
    | none => none
    | some (distance, rest) =>
      let count := points.length + 1
      let point := last + (place + distance) / count
      let here := (place + distance) % count
      if greatest < point then none
      else
        insertAll? fuel (points.take here ++ point :: points.drop here) point (here + 1)
          (adapt distance count (place = 0)) rest

/-- The code points that plain letters stand for. -/
def decode? (cs : List Char) : Option (List Nat) :=
  let digits := (cs.reverse.takeWhile (· ≠ '-')).reverse
  let plain := (cs.take (cs.length - digits.length)).dropLast
  insertAll? digits.length (plain.map Char.toNat) 128 0 72 digits

end InodeGateway.Punycode
