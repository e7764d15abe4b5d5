import InodeGateway.Num

/-!
# The text of a number

A number is written with the fewest digits that read back as the same number, and of those with
the digits nearest to it.  Powers of ten from `10 ^ -7` up to below `10 ^ 21` are written
positionally, all others with an exponent.

## Main definitions

* `Num.shortest` — the fewest digits that read back, as a coefficient and a power of ten
* `Num.toText` — the text of a number
-/

namespace InodeGateway.Num

/-- The product with a power of ten that may be negative, as numerator and denominator. -/
def scale10 (num den : Nat) (e : Int) : Nat × Nat :=
  match e with
  | .ofNat k => (num * Nat.pow 10 k, den)
  | .negSucc k => (num, den * Nat.pow 10 (k + 1))

/-- How many decimal digits a positive natural number has. -/
def digitCount (n : Nat) : Nat := (Nat.toDigits 10 n).length

/-- The `k` with `10 ^ (k - 1) ≤ num / den < 10 ^ k`, for positive arguments. -/
def decimalOrder (num den : Nat) : Int :=
  let k : Int := (digitCount num : Int) - (digitCount den : Int)
  let (n, d) := scale10 num den (-k)
  if d ≤ n then k + 1 else k

/-- Of the two multiples of `10 ^ unit` next to the quotient, the one that reads back as `value`;
of two, the nearer, and of two equally near, the even one. -/
def neighbour? (value : Rat) (num den : Nat) (unit : Int) : Option Nat :=
  let (n, d) := scale10 num den (-unit)
  let low := n / d
  let reads (c : Nat) : Bool :=
    let (p, q) := scale10 c 1 unit
    ofRat (mkRat p q) = .fin value
  match reads low, reads (low + 1) with
  | true, false => some low
  | false, true => some (low + 1)
  | false, false => none
  | true, true => some (roundQuotient n d)

/-- The first of the digit counts `count`, `count + 1`, … for which a neighbour reads back, as
coefficient and power of ten.  Seventeen digits always read back. -/
def shortestFrom (value : Rat) (num den : Nat) (order : Int) : (fuel count : Nat) → Nat × Int
  | 0, count => (num / den, order - count)
  | fuel + 1, count =>
    let unit := order - count
    match neighbour? value num den unit with
    | some c => (c, unit)
    | none => shortestFrom value num den order fuel (count + 1)

/-- The fewest digits that read back as the positive number `value`. -/
def shortest (value : Rat) : Nat × Int :=
  let num := value.num.natAbs
  let den := value.den
  shortestFrom value num den (decimalOrder num den) 17 1

/-- The digits of a coefficient without zeros at the end. -/
def significant (coefficient : Nat) : List Char :=
  ((Nat.toDigits 10 coefficient).reverse.dropWhile (· == '0')).reverse

/-- Writes `digits` with the decimal point after `point` places; `point` may lie outside. -/
def positional (digits : List Char) (point : Int) : List Char :=
  let count : Int := digits.length
  if count ≤ point then digits ++ List.replicate (point - count).toNat '0'
  else if 0 < point then digits.take point.toNat ++ '.' :: digits.drop point.toNat
  else '0' :: '.' :: (List.replicate (-point).toNat '0' ++ digits)

/-- Writes `digits` with one place before the point and an exponent. -/
def scientific (digits : List Char) (point : Int) : List Char :=
  let e := point - 1
  let sign := if e < 0 then '-' else '+'
  let power := 'e' :: sign :: Nat.toDigits 10 e.natAbs
  match digits with
  | [] => power
  | [c] => c :: power
  | c :: cs => c :: '.' :: (cs ++ power)

def positiveText (value : Rat) : List Char :=
  let (coefficient, power) := shortest value
  let digits := significant coefficient
  let point := power + digitCount coefficient
  if -6 < point ∧ point ≤ 21 then positional digits point else scientific digits point

def toText : Num → String
  | .nan => "NaN"
  | .infinity negative => if negative then "-Infinity" else "Infinity"
  | .fin q =>
    if q = 0 then "0"
    else if q < 0 then String.ofList ('-' :: positiveText (-q))
    else String.ofList (positiveText q)

end InodeGateway.Num
