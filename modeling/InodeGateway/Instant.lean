import InodeGateway.Num

/-!
# Instants

Moments in milliseconds since the beginning of the year 1970, within a hundred million days of it;
a moment outside of that range, or one made from no number, is invalid.

## Main definitions

* `Instant` — a moment, or the invalid one
* `Instant.ofNum`, `Instant.toNum` — moments and numbers of milliseconds
* `Instant.toIso?` — the calendar text of a moment
-/

namespace InodeGateway

inductive Instant where
  | invalid
  /-- So many milliseconds after the beginning of 1970. -/
  | at (ms : Int)
  deriving DecidableEq, Repr, Inhabited

namespace Instant

/-- The greatest distance from the beginning of 1970, in milliseconds. -/
def limit : Nat := 8640000000000000

/-- The moment of a number of milliseconds; a fraction is dropped. -/
def ofNum : Num → Instant
  | .fin q => if (Num.truncate q).natAbs ≤ limit ∧ q ≤ limit ∧ -(limit : Rat) ≤ q then
      .at (Num.truncate q)
    else .invalid
  | _ => .invalid

/-- The milliseconds of a moment; an invalid one has no number. -/
def toNum : Instant → Num
  | .invalid => .nan
  | .at ms => .ofInt ms

/-- Milliseconds in a day. -/
def dayLength : Int := 86400000

/-- Year, month and day of a day counted from the beginning of 1970, in the Gregorian calendar
carried back without end.  Days are counted in eras of four hundred years that begin in March. -/
def civil (days : Int) : Int × Nat × Nat :=
  let z := days + 719468
  let era := z.fdiv 146097
  let dayOfEra := (z - era * 146097).toNat
  let yearOfEra :=
    (dayOfEra - dayOfEra / 1460 + dayOfEra / 36524 - dayOfEra / 146096) / 365
  let dayOfYear := dayOfEra - (365 * yearOfEra + yearOfEra / 4 - yearOfEra / 100)
  let shifted := (5 * dayOfYear + 2) / 153
  let day := dayOfYear - (153 * shifted + 2) / 5 + 1
  let month := if shifted < 10 then shifted + 3 else shifted - 9
  let year := (yearOfEra : Int) + era * 400
  (if month ≤ 2 then year + 1 else year, month, day)

/-- A number in at least `width` digits. -/
def padded (width n : Nat) : String :=
  let digits := Nat.toDigits 10 n
  String.ofList (List.replicate (width - digits.length) '0' ++ digits)

/-- A year in four digits, or with a sign and six digits when it lies outside of those. -/
def yearText (year : Int) : String :=
  if 0 ≤ year ∧ year ≤ 9999 then padded 4 year.toNat
  else (if year < 0 then "-" else "+") ++ padded 6 year.natAbs

/-- The calendar text of a moment, in Greenwich time; an invalid one has none. -/
def toIso? : Instant → Option String
  | .invalid => none
  | .at ms =>
    let (year, month, day) := civil (ms.fdiv dayLength)
    let rest := (ms.fmod dayLength).toNat
    some (yearText year ++ "-" ++ padded 2 month ++ "-" ++ padded 2 day ++ "T" ++
      padded 2 (rest / 3600000) ++ ":" ++ padded 2 (rest / 60000 % 60) ++ ":" ++
      padded 2 (rest / 1000 % 60) ++ "." ++ padded 3 (rest % 1000) ++ "Z")

end Instant

end InodeGateway
