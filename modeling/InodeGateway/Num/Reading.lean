import InodeGateway.Num
import InodeGateway.Text.Blank

/-!
# Reading numbers

Two grammars share the decimal literal: the numbers of a document, which have one spelling of each
part, and the numbers that people set, where blanks around the number, a plus sign, missing digits
on one side of the point and other bases are accepted as well.

## Main definitions

* `Num.ofDecimal` — the number nearest to a coefficient times a power of ten
* `Num.takeDigits` — the digits at the front of a text
* `Num.ofText` — the number that a person wrote, or no number
-/

namespace InodeGateway.Num

/-- The number nearest to `± coefficient * 10 ^ exponent`.  Beyond four hundred places the answer
is infinity or zero whatever the digits. -/
def ofDecimal (negative : Bool) (coefficient : Nat) (exponent : Int) : Num :=
  if coefficient = 0 then .fin 0
  else
    let order : Int := exponent + (Nat.toDigits 10 coefficient).length
    if 400 < order then .infinity negative
    else if order < -400 then .fin 0
    else
      let magnitude : Rat :=
        match exponent with
        | .ofNat k => mkRat (coefficient * Nat.pow 10 k) 1
        | .negSucc k => mkRat coefficient (Nat.pow 10 (k + 1))
      ofRat (if negative then -magnitude else magnitude)

/-- The digits at the front of a text, and the rest. -/
def takeDigits (cs : List Char) : List Char × List Char :=
  (cs.takeWhile Char.isDigit, cs.dropWhile Char.isDigit)

def digitsValue (cs : List Char) : Nat := Nat.ofDigitChars 10 cs 0

/-- An exponent at the front of a text: the letter, perhaps a sign, and digits.  Without digits
there is no exponent and nothing is taken. -/
def takeExponent (cs : List Char) : Int × List Char :=
  match cs with
  | c :: rest =>
    if c = 'e' ∨ c = 'E' then
      let (negative, body) :=
        match rest with
        | '-' :: body => (true, body)
        | '+' :: body => (false, body)
        | body => (false, body)
      match takeDigits body with
      | ([], _) => (0, cs)
      | (digits, tail) =>
        let e : Int := digitsValue digits
        (if negative then -e else e, tail)
    else (0, cs)
  | [] => (0, cs)

/-- An unsigned decimal number that fills the whole text: digits, a point and digits, of which one
side may be missing, and perhaps an exponent. -/
def ofUnsigned? (negative : Bool) (cs : List Char) : Option Num :=
  let (whole, rest) := takeDigits cs
  let (fraction, rest) :=
    match rest with
    | '.' :: tail => takeDigits tail
    | rest => ([], rest)
  if whole.isEmpty && fraction.isEmpty then none
  else
    let (e, tail) := takeExponent rest
    if tail.isEmpty then
      some (ofDecimal negative (digitsValue (whole ++ fraction)) (e - fraction.length))
    else none

/-- The value of a digit in bases up to sixteen. -/
def digitValue? (c : Char) : Option Nat :=
  if c.isDigit then some (c.toNat - '0'.toNat)
  else if 'a' ≤ c ∧ c ≤ 'f' then some (c.toNat - 'a'.toNat + 10)
  else if 'A' ≤ c ∧ c ≤ 'F' then some (c.toNat - 'A'.toNat + 10)
  else none

/-- The value of digits in a base; nothing if one of them is no digit of it. -/
def baseValue? (base : Nat) (cs : List Char) : Option Nat :=
  cs.foldlM (fun n c =>
    match digitValue? c with
    | some d => if d < base then some (n * base + d) else none
    | none => none) 0

/-- The base that a letter after a leading zero announces. -/
def baseOf? (letter : Char) : Option Nat :=
  if letter = 'x' ∨ letter = 'X' then some 16
  else if letter = 'o' ∨ letter = 'O' then some 8
  else if letter = 'b' ∨ letter = 'B' then some 2
  else none

/-- A number without blanks, other than in another base: perhaps a sign, then digits or the word
for infinity. -/
def ofSigned? (cs : List Char) : Option Num :=
  let (negative, body) :=
    match cs with
    | '-' :: body => (true, body)
    | '+' :: body => (false, body)
    | body => (false, body)
  if body = "Infinity".toList then some (.infinity negative) else ofUnsigned? negative body

/-- The number that a person wrote: blanks around it do not count, a blank text is zero, and a text
in no accepted form is no number. -/
def ofText (s : String) : Num :=
  match Text.trimList s.toList with
  | [] => .fin 0
  | '0' :: letter :: digits =>
    match baseOf? letter with
    | some base =>
      if digits.isEmpty then .nan else ((baseValue? base digits).map ofNat).getD .nan
    | none => (ofSigned? ('0' :: letter :: digits)).getD .nan
  | cs => (ofSigned? cs).getD .nan

end InodeGateway.Num
