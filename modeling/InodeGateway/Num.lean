/-!
# Numbers of double precision

Sizes, modes, masks and user ids come from the outside as binary numbers of 64 bits.  A finite one
is kept as the rational number that it is; the two infinities and the value that is no number stand
beside it.  The sign of zero is not kept, for no answer shows it.

## Main definitions

* `Num` — a number of double precision
* `Num.ofRat` — the nearest number; a tie goes to the even neighbour
* `Num.add`, `Num.sub`, `Num.max` — arithmetic, rounded once
* `Num.toNatUpTo?` — the number as a natural number within a limit
* `Num.low32` — the number as a word of 32 bits

## Main statements

* `Num.ofRat_intCast` — whole numbers up to two to the power 53 are kept exactly
-/

namespace InodeGateway

/-- A number of double precision. -/
inductive Num where
  | nan
  /-- Infinity, or its negative. -/
  | infinity (negative : Bool)
  | fin (value : Rat)
  deriving DecidableEq, Repr

namespace Num

instance : Inhabited Num := ⟨.nan⟩

/-- The quotient rounded to the nearest natural number; a tie goes to the even one. -/
def roundQuotient (num den : Nat) : Nat :=
  let q := num / den
  let r := num % den
  if 2 * r < den then q
  else if den < 2 * r then q + 1
  else if q % 2 = 0 then q
  else q + 1

/-- The product with a power of two that may be negative, as numerator and denominator. -/
def scale (num den : Nat) (e : Int) : Nat × Nat :=
  match e with
  | .ofNat k => (num * Nat.pow 2 k, den)
  | .negSucc k => (num, den * Nat.pow 2 (k + 1))

/-- The greatest `k` with `2 ^ k ≤ num / den`, for positive arguments. -/
def binaryOrder (num den : Nat) : Int :=
  let k : Int := (num.log2 : Int) - (den.log2 : Int)
  let (n, d) := scale num den (-k)
  if d ≤ n then k else k - 1

/-- A positive quotient rounded to 53 significant bits, but to no finer unit than `2 ^ -1074`;
nothing when the result leaves the finite range. -/
def roundPositive (num den : Nat) : Option Rat :=
  let unit := max (binaryOrder num den - 52) (-1074)
  let (n, d) := scale num den (-unit)
  let (p, q) := scale (roundQuotient n d) 1 unit
  if Nat.pow 2 1024 ≤ p then none else some (mkRat p q)

/-- Whole numbers up to this one need no rounding. -/
def exactLimit : Nat := 9007199254740992

/-- The nearest number of double precision; a tie goes to the neighbour whose last bit is zero. -/
def ofRat (q : Rat) : Num :=
  if q.den = 1 ∧ q.num.natAbs ≤ exactLimit then .fin q
  else
    match roundPositive q.num.natAbs q.den with
    | none => .infinity (q.num < 0)
    | some r => .fin (if q.num < 0 then -r else r)

def ofInt (i : Int) : Num := ofRat (i : Rat)

def ofNat (n : Nat) : Num := ofInt n

instance (n : Nat) : OfNat Num n := ⟨ofNat n⟩

def neg : Num → Num
  | .nan => .nan
  | .infinity negative => .infinity !negative
  | .fin q => .fin (-q)

/-- The sum, rounded once. -/
def add : Num → Num → Num
  | .nan, _ => .nan
  | _, .nan => .nan
  | .infinity a, .infinity b => if a = b then .infinity a else .nan
  | .infinity a, .fin _ => .infinity a
  | .fin _, .infinity b => .infinity b
  | .fin p, .fin q => ofRat (p + q)

/-- The difference, rounded once. -/
def sub (a b : Num) : Num := a.add b.neg

/-- The greater of two numbers; no number if one of them is none. -/
def max : Num → Num → Num
  | .nan, _ => .nan
  | _, .nan => .nan
  | .infinity a, b => if a then b else .infinity false
  | a, .infinity b => if b then a else .infinity false
  | .fin p, .fin q => .fin (if p ≤ q then q else p)

def isFinite : Num → Bool
  | .fin _ => true
  | _ => false

def isInteger : Num → Bool
  | .fin q => q.den = 1
  | _ => false

/-- Whether the number is below zero. -/
def isNegative : Num → Bool
  | .nan => false
  | .infinity negative => negative
  | .fin q => q < 0

/-- The number without its fraction: the nearest whole number toward zero. -/
def truncate (q : Rat) : Int := q.num.tdiv q.den

/-- The number as a natural number, if it is whole and lies between zero and the limit. -/
def toNatUpTo? (limit : Nat) : Num → Option Nat
  | .fin q => if q.den = 1 ∧ 0 ≤ q.num ∧ q.num.toNat ≤ limit then some q.num.toNat else none
  | _ => none

/-- Whether the number is whole and not below zero. -/
def isNatural (x : Num) : Bool := x.isInteger && !x.isNegative

/-- The number as an unsigned word of 32 bits: without its fraction, modulo two to the power 32.
What is not finite counts as zero. -/
def low32 : Num → Nat
  | .fin q => (truncate q % 0x100000000).toNat
  | _ => 0

theorem ofRat_intCast {i : Int} (h : i.natAbs ≤ exactLimit) : ofRat (i : Rat) = .fin i := by
  simp [ofRat, h]

end Num

end InodeGateway
